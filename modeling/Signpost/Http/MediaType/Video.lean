import Signpost.Http.MediaType.Format

/-!
Media types of moving pictures.
-/

namespace Signpost

/-- Formats of moving pictures. -/
def videoFormats : List MediaFormat :=
  [⟨"video/3gpp", ["3gp", "3gpp"]⟩,
   ⟨"video/3gpp2", ["3g2", "3gp2"]⟩,
   ⟨"video/annodex", ["axv"]⟩,
   ⟨"video/divx", ["divx"]⟩,
   ⟨"video/h261", ["h261"]⟩,
   ⟨"video/h263", ["h263"]⟩,
   ⟨"video/h264", ["h264"]⟩,
   ⟨"video/jpeg", ["jpgv"]⟩,
   ⟨"video/jpm", ["jpgm"]⟩,
   ⟨"video/mj2", ["mj2", "mjp2"]⟩,
   ⟨"video/mp4", ["f4v", "mp4", "mp4v", "mpg4"]⟩,
   ⟨"video/mpeg", ["m1v", "m2v", "mod", "mp2", "mp2v", "mpa", "mpe", "mpeg", "mpg", "mpv2", "vbk"]⟩,
   ⟨"video/ogg", ["ogv"]⟩,
   ⟨"video/quicktime", ["mov", "mqv", "qt"]⟩,
   ⟨"video/vnd.dece.hd", ["uvh", "uvvh"]⟩,
   ⟨"video/vnd.dece.mobile", ["uvm", "uvvm"]⟩,
   ⟨"video/vnd.dece.pd", ["uvp", "uvvp"]⟩,
   ⟨"video/vnd.dece.sd", ["uvs", "uvvs"]⟩,
   ⟨"video/vnd.dece.video", ["uvv", "uvvv"]⟩,
   ⟨"video/vnd.dlna.mpeg-tts", ["m2t", "m2ts", "mts", "ts", "tts"]⟩,
   ⟨"video/vnd.dvb.file", ["dvb"]⟩,
   ⟨"video/vnd.fvt", ["fvt"]⟩,
   ⟨"video/vnd.mpegurl", ["m4u", "mxu"]⟩,
   ⟨"video/vnd.ms-playready.media.pyv", ["pyv"]⟩,
   ⟨"video/vnd.uvvu.mp4", ["uvu", "uvvu"]⟩,
   ⟨"video/vnd.vivo", ["viv"]⟩,
   ⟨"video/webm", ["webm"]⟩,
   ⟨"video/x-dv", ["dif", "dv"]⟩,
   ⟨"video/x-fli", ["fli"]⟩,
   ⟨"video/x-flv", ["flv"]⟩,
   ⟨"video/x-ivf", ["ivf"]⟩,
   ⟨"video/x-la-asf", ["lsf", "lsx"]⟩,
   ⟨"video/x-m4v", ["m4v"]⟩,
   ⟨"video/x-matroska", ["mks", "mkv"]⟩,
   ⟨"video/x-matroska-3d", ["mk3d"]⟩,
   ⟨"video/x-mng", ["mng"]⟩,
   ⟨"video/x-ms-asf", ["asf", "asr", "asx", "nsc"]⟩,
   ⟨"video/x-ms-vob", ["vob"]⟩,
   ⟨"video/x-ms-wm", ["wm"]⟩,
   ⟨"video/x-ms-wmp", ["wmp"]⟩,
   ⟨"video/x-ms-wmv", ["wmv"]⟩,
   ⟨"video/x-ms-wmx", ["wmx"]⟩,
   ⟨"video/x-ms-wvx", ["wvx"]⟩,
   ⟨"video/x-msvideo", ["avi"]⟩,
   ⟨"video/x-sgi-movie", ["movie"]⟩,
   ⟨"video/x-smv", ["smv"]⟩]

end Signpost
