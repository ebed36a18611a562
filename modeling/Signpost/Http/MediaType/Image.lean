import Signpost.Http.MediaType.Format

/-!
Media types of pictures.
-/

namespace Signpost

/-- Formats of pictures. -/
def imageFormats : List MediaFormat :=
  [⟨"image/aces", ["exr"]⟩,
   ⟨"image/apng", ["apng"]⟩,
   ⟨"image/avif", ["avif", "avifs"]⟩,
   ⟨"image/bmp", ["bmp", "dib"]⟩,
   ⟨"image/cgm", ["cgm"]⟩,
   ⟨"image/cis-cod", ["cod"]⟩,
   ⟨"image/dicom-rle", ["drle"]⟩,
   ⟨"image/emf", ["emf"]⟩,
   ⟨"image/fits", ["fits"]⟩,
   ⟨"image/g3fax", ["g3"]⟩,
   ⟨"image/gif", ["gif"]⟩,
   ⟨"image/heic", ["heic"]⟩,
   ⟨"image/heic-sequence", ["heics"]⟩,
   ⟨"image/heif", ["heif"]⟩,
   ⟨"image/heif-sequence", ["heifs"]⟩,
   ⟨"image/ief", ["ief"]⟩,
   ⟨"image/jls", ["jls"]⟩,
   ⟨"image/jp2", ["jp2", "jpg2"]⟩,
   ⟨"image/jpeg", ["jpe", "jpeg", "jpg"]⟩,
   ⟨"image/jpm", ["jpm"]⟩,
   ⟨"image/jpx", ["jpf", "jpx"]⟩,
   ⟨"image/jxl", ["jxl"]⟩,
   ⟨"image/jxr", ["jxr"]⟩,
   ⟨"image/ktx", ["ktx"]⟩,
   ⟨"image/pict", ["pct", "pic", "pict"]⟩,
   ⟨"image/pjpeg", ["jfif"]⟩,
   ⟨"image/png", ["png", "pnz"]⟩,
   ⟨"image/prs.btif", ["btif"]⟩,
   ⟨"image/prs.pti", ["pti"]⟩,
   ⟨"image/sgi", ["sgi"]⟩,
   ⟨"image/svg+xml", ["svg", "svgz"]⟩,
   ⟨"image/t38", ["t38"]⟩,
   ⟨"image/tiff", ["tif", "tiff"]⟩,
   ⟨"image/tiff-fx", ["tfx"]⟩,
   ⟨"image/vnd.airzip.accelerator.azv", ["azv"]⟩,
   ⟨"image/vnd.dece.graphic", ["uvg", "uvi", "uvvg", "uvvi"]⟩,
   ⟨"image/vnd.djvu", ["djv", "djvu"]⟩,
   ⟨"image/vnd.fastbidsheet", ["fbs"]⟩,
   ⟨"image/vnd.fpx", ["fpx"]⟩,
   ⟨"image/vnd.fst", ["fst"]⟩,
   ⟨"image/vnd.fujixerox.edmics-mmr", ["mmr"]⟩,
   ⟨"image/vnd.fujixerox.edmics-rlc", ["rlc"]⟩,
   ⟨"image/vnd.ms-modi", ["mdi"]⟩,
   ⟨"image/vnd.ms-photo", ["wdp"]⟩,
   ⟨"image/vnd.net-fpx", ["npx"]⟩,
   ⟨"image/vnd.rn-realflash", ["rf"]⟩,
   ⟨"image/vnd.tencent.tap", ["tap"]⟩,
   ⟨"image/vnd.valve.source.texture", ["vtf"]⟩,
   ⟨"image/vnd.wap.wbmp", ["wbmp"]⟩,
   ⟨"image/vnd.xiff", ["xif"]⟩,
   ⟨"image/webp", ["webp"]⟩,
   ⟨"image/x-3ds", ["3ds"]⟩,
   ⟨"image/x-cmu-raster", ["ras"]⟩,
   ⟨"image/x-cmx", ["cmx"]⟩,
   ⟨"image/x-freehand", ["fh", "fh4", "fh5", "fh7", "fhc"]⟩,
   ⟨"image/x-icon", ["ico"]⟩,
   ⟨"image/x-jg", ["art"]⟩,
   ⟨"image/x-jng", ["jng"]⟩,
   ⟨"image/x-macpaint", ["mac", "pnt", "pntg"]⟩,
   ⟨"image/x-mrsid-image", ["sid"]⟩,
   ⟨"image/x-portable-anymap", ["pnm"]⟩,
   ⟨"image/x-portable-bitmap", ["pbm"]⟩,
   ⟨"image/x-portable-graymap", ["pgm"]⟩,
   ⟨"image/x-portable-pixmap", ["ppm"]⟩,
   ⟨"image/x-quicktime", ["qti", "qtif"]⟩,
   ⟨"image/x-rgb", ["rgb"]⟩,
   ⟨"image/x-tga", ["tga"]⟩,
   ⟨"image/x-xbitmap", ["xbm"]⟩,
   ⟨"image/x-xpixmap", ["xpm"]⟩,
   ⟨"image/x-xwindowdump", ["xwd"]⟩]

end Signpost
