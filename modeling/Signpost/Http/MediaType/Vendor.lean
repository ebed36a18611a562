import Signpost.Http.MediaType.Format

/-!
Media types of applications under the names of their vendors.
-/

namespace Signpost

/-- Formats of one vendor's applications. -/
def vendorFormats : List MediaFormat :=
  [⟨"application/vnd.3gpp.pic-bw-large", ["plb"]⟩,
   ⟨"application/vnd.3gpp.pic-bw-small", ["psb"]⟩,
   ⟨"application/vnd.3gpp.pic-bw-var", ["pvb"]⟩,
   ⟨"application/vnd.3gpp2.tcap", ["tcap"]⟩,
   ⟨"application/vnd.3m.post-it-notes", ["pwn"]⟩,
   ⟨"application/vnd.accpac.simply.aso", ["aso"]⟩,
   ⟨"application/vnd.accpac.simply.imp", ["imp"]⟩,
   ⟨"application/vnd.acucobol", ["acu"]⟩,
   ⟨"application/vnd.acucorp", ["acutc", "atc"]⟩,
   ⟨"application/vnd.adobe.air-application-installer-package+zip", ["air"]⟩,
   ⟨"application/vnd.adobe.formscentral.fcdt", ["fcdt"]⟩,
   ⟨"application/vnd.adobe.fxp", ["fxp", "fxpl"]⟩,
   ⟨"application/vnd.adobe.xdp+xml", ["xdp"]⟩,
   ⟨"application/vnd.adobe.xfdf", ["xfdf"]⟩,
   ⟨"application/vnd.ahead.space", ["ahead"]⟩,
   ⟨"application/vnd.airzip.filesecure.azf", ["azf"]⟩,
   ⟨"application/vnd.airzip.filesecure.azs", ["azs"]⟩,
   ⟨"application/vnd.amazon.ebook", ["azw"]⟩,
   ⟨"application/vnd.americandynamics.acc", ["acc"]⟩,
   ⟨"application/vnd.amiga.ami", ["ami"]⟩,
   ⟨"application/vnd.android.package-archive", ["apk"]⟩,
   ⟨"application/vnd.anser-web-certificate-issue-initiation", ["cii"]⟩,
   ⟨"application/vnd.anser-web-funds-transfer-initiation", ["fti"]⟩,
   ⟨"application/vnd.antix.game-component", ["atx"]⟩,
   ⟨"application/vnd.apple.installer+xml", ["mpkg"]⟩,
   ⟨"application/vnd.apple.keynote", ["keynote"]⟩,
   ⟨"application/vnd.apple.numbers", ["numbers"]⟩,
   ⟨"application/vnd.apple.pages", ["pages"]⟩,
   ⟨"application/vnd.apple.pkpass", ["pkpass"]⟩,
   ⟨"application/vnd.aristanetworks.swi", ["swi"]⟩,
   ⟨"application/vnd.astraea-software.iota", ["iota"]⟩,
   ⟨"application/vnd.audiograph", ["aep"]⟩,
   ⟨"application/vnd.blueice.multipass", ["mpm"]⟩,
   ⟨"application/vnd.bmi", ["bmi"]⟩,
   ⟨"application/vnd.businessobjects", ["rep"]⟩,
   ⟨"application/vnd.chemdraw+xml", ["cdxml"]⟩,
   ⟨"application/vnd.chipnuts.karaoke-mmd", ["mmd"]⟩,
   ⟨"application/vnd.cinderella", ["cdy"]⟩,
   ⟨"application/vnd.citationstyles.style+xml", ["csl"]⟩,
   ⟨"application/vnd.claymore", ["cla"]⟩,
   ⟨"application/vnd.cloanto.rp9", ["rp9"]⟩,
   ⟨"application/vnd.clonk.c4group", ["c4d", "c4f", "c4g", "c4p", "c4u"]⟩,
   ⟨"application/vnd.cluetrust.cartomobile-config", ["c11amc"]⟩,
   ⟨"application/vnd.cluetrust.cartomobile-config-pkg", ["c11amz"]⟩,
   ⟨"application/vnd.commonspace", ["csp"]⟩,
   ⟨"application/vnd.contact.cmsg", ["cdbcmsg"]⟩,
   ⟨"application/vnd.cosmocaller", ["cmc"]⟩,
   ⟨"application/vnd.crick.clicker", ["clkx"]⟩,
   ⟨"application/vnd.crick.clicker.keyboard", ["clkk"]⟩,
   ⟨"application/vnd.crick.clicker.palette", ["clkp"]⟩,
   ⟨"application/vnd.crick.clicker.template", ["clkt"]⟩,
   ⟨"application/vnd.crick.clicker.wordbank", ["clkw"]⟩,
   ⟨"application/vnd.criticaltools.wbs+xml", ["wbs"]⟩,
   ⟨"application/vnd.cups-ppd", ["ppd"]⟩,
   ⟨"application/vnd.curl.car", ["car"]⟩,
   ⟨"application/vnd.curl.pcurl", ["pcurl"]⟩,
   ⟨"application/vnd.dart", ["dart"]⟩,
   ⟨"application/vnd.data-vision.rdz", ["rdz"]⟩,
   ⟨"application/vnd.dece.data", ["uvd", "uvf", "uvvd", "uvvf"]⟩,
   ⟨"application/vnd.dece.ttml+xml", ["uvt", "uvvt"]⟩,
   ⟨"application/vnd.dece.unspecified", ["uvvx", "uvx"]⟩,
   ⟨"application/vnd.dece.zip", ["uvvz", "uvz"]⟩,
   ⟨"application/vnd.denovo.fcselayout-link", ["fe_launch"]⟩,
   ⟨"application/vnd.dna", ["dna"]⟩,
   ⟨"application/vnd.dolby.mlp", ["mlp"]⟩,
   ⟨"application/vnd.dpgraph", ["dpg"]⟩,
   ⟨"application/vnd.dreamfactory", ["dfac"]⟩,
   ⟨"application/vnd.ds-keypoint", ["kpxx"]⟩,
   ⟨"application/vnd.dvb.ait", ["ait"]⟩,
   ⟨"application/vnd.dynageo", ["geo"]⟩,
   ⟨"application/vnd.ecowin.chart", ["mag"]⟩,
   ⟨"application/vnd.enliven", ["nml"]⟩,
   ⟨"application/vnd.epson.esf", ["esf"]⟩,
   ⟨"application/vnd.epson.msf", ["msf"]⟩,
   ⟨"application/vnd.epson.quickanime", ["qam"]⟩,
   ⟨"application/vnd.epson.salt", ["slt"]⟩,
   ⟨"application/vnd.epson.ssf", ["ssf"]⟩,
   ⟨"application/vnd.eszigno3+xml", ["es3", "et3"]⟩,
   ⟨"application/vnd.ezpix-album", ["ez2"]⟩,
   ⟨"application/vnd.ezpix-package", ["ez3"]⟩,
   ⟨"application/vnd.fdf", ["fdf"]⟩,
   ⟨"application/vnd.fdsn.mseed", ["mseed"]⟩,
   ⟨"application/vnd.fdsn.seed", ["dataless", "seed"]⟩,
   ⟨"application/vnd.flographit", ["gph"]⟩,
   ⟨"application/vnd.fluxtime.clip", ["ftc"]⟩,
   ⟨"application/vnd.framemaker", ["book", "fm", "frame", "maker"]⟩,
   ⟨"application/vnd.frogans.fnc", ["fnc"]⟩,
   ⟨"application/vnd.frogans.ltf", ["ltf"]⟩,
   ⟨"application/vnd.fsc.weblaunch", ["fsc"]⟩,
   ⟨"application/vnd.fujitsu.oasys", ["oas"]⟩,
   ⟨"application/vnd.fujitsu.oasys2", ["oa2"]⟩,
   ⟨"application/vnd.fujitsu.oasys3", ["oa3"]⟩,
   ⟨"application/vnd.fujitsu.oasysgp", ["fg5"]⟩,
   ⟨"application/vnd.fujitsu.oasysprs", ["bh2"]⟩,
   ⟨"application/vnd.fujixerox.ddd", ["ddd"]⟩,
   ⟨"application/vnd.fujixerox.docuworks", ["xdw"]⟩,
   ⟨"application/vnd.fujixerox.docuworks.binder", ["xbd"]⟩,
   ⟨"application/vnd.fuzzysheet", ["fzs"]⟩,
   ⟨"application/vnd.genomatix.tuxedo", ["txd"]⟩,
   ⟨"application/vnd.geogebra.file", ["ggb"]⟩,
   ⟨"application/vnd.geogebra.tool", ["ggt"]⟩,
   ⟨"application/vnd.geometry-explorer", ["gex", "gre"]⟩,
   ⟨"application/vnd.geonext", ["gxt"]⟩,
   ⟨"application/vnd.geoplan", ["g2w"]⟩,
   ⟨"application/vnd.geospace", ["g3w"]⟩,
   ⟨"application/vnd.gmx", ["gmx"]⟩,
   ⟨"application/vnd.google-apps.document", ["gdoc"]⟩,
   ⟨"application/vnd.google-apps.presentation", ["gslides"]⟩,
   ⟨"application/vnd.google-apps.spreadsheet", ["gsheet"]⟩,
   ⟨"application/vnd.google-earth.kml+xml", ["kml"]⟩,
   ⟨"application/vnd.google-earth.kmz", ["kmz"]⟩,
   ⟨"application/vnd.grafeq", ["gqf", "gqs"]⟩,
   ⟨"application/vnd.groove-account", ["gac"]⟩,
   ⟨"application/vnd.groove-help", ["ghf"]⟩,
   ⟨"application/vnd.groove-identity-message", ["gim"]⟩,
   ⟨"application/vnd.groove-injector", ["grv"]⟩,
   ⟨"application/vnd.groove-tool-message", ["gtm"]⟩,
   ⟨"application/vnd.groove-tool-template", ["tpl"]⟩,
   ⟨"application/vnd.groove-vcard", ["vcg"]⟩,
   ⟨"application/vnd.hal+xml", ["hal"]⟩,
   ⟨"application/vnd.handheld-entertainment+xml", ["zmm"]⟩,
   ⟨"application/vnd.hbci", ["hbci"]⟩,
   ⟨"application/vnd.hhe.lesson-player", ["les"]⟩,
   ⟨"application/vnd.hp-hpgl", ["hpgl"]⟩,
   ⟨"application/vnd.hp-hpid", ["hpid"]⟩,
   ⟨"application/vnd.hp-hps", ["hps"]⟩,
   ⟨"application/vnd.hp-jlyt", ["jlt"]⟩,
   ⟨"application/vnd.hp-pcl", ["pcl"]⟩,
   ⟨"application/vnd.hp-pclxl", ["pclxl"]⟩,
   ⟨"application/vnd.hydrostatix.sof-data", ["sfd-hdstx"]⟩,
   ⟨"application/vnd.ibm.minipay", ["mpy"]⟩,
   ⟨"application/vnd.ibm.modcap", ["afp", "list3820", "listafp"]⟩,
   ⟨"application/vnd.ibm.rights-management", ["irm"]⟩,
   ⟨"application/vnd.ibm.secure-container", ["sc"]⟩,
   ⟨"application/vnd.iccprofile", ["icc", "icm"]⟩,
   ⟨"application/vnd.igloader", ["igl"]⟩,
   ⟨"application/vnd.immervision-ivp", ["ivp"]⟩,
   ⟨"application/vnd.immervision-ivu", ["ivu"]⟩,
   ⟨"application/vnd.insors.igm", ["igm"]⟩,
   ⟨"application/vnd.intercon.formnet", ["xpw", "xpx"]⟩,
   ⟨"application/vnd.intergeo", ["i2g"]⟩,
   ⟨"application/vnd.intu.qbo", ["qbo"]⟩,
   ⟨"application/vnd.intu.qfx", ["qfx"]⟩,
   ⟨"application/vnd.ipunplugged.rcprofile", ["rcprofile"]⟩,
   ⟨"application/vnd.irepository.package+xml", ["irp"]⟩,
   ⟨"application/vnd.is-xpr", ["xpr"]⟩,
   ⟨"application/vnd.isac.fcs", ["fcs"]⟩,
   ⟨"application/vnd.jam", ["jam"]⟩,
   ⟨"application/vnd.jcp.javame.midlet-rms", ["rms"]⟩,
   ⟨"application/vnd.jisp", ["jisp"]⟩,
   ⟨"application/vnd.joost.joda-archive", ["joda"]⟩,
   ⟨"application/vnd.kahootz", ["ktr", "ktz"]⟩,
   ⟨"application/vnd.kde.karbon", ["karbon"]⟩,
   ⟨"application/vnd.kde.kchart", ["chrt"]⟩,
   ⟨"application/vnd.kde.kformula", ["kfo"]⟩,
   ⟨"application/vnd.kde.kivio", ["flw"]⟩,
   ⟨"application/vnd.kde.kontour", ["kon"]⟩,
   ⟨"application/vnd.kde.kpresenter", ["kpr", "kpt"]⟩,
   ⟨"application/vnd.kde.kspread", ["ksp"]⟩,
   ⟨"application/vnd.kde.kword", ["kwd", "kwt"]⟩,
   ⟨"application/vnd.kenameaapp", ["htke"]⟩,
   ⟨"application/vnd.kidspiration", ["kia"]⟩,
   ⟨"application/vnd.kinar", ["kne", "knp"]⟩,
   ⟨"application/vnd.koan", ["skd", "skm", "skt"]⟩,
   ⟨"application/vnd.kodak-descriptor", ["sse"]⟩,
   ⟨"application/vnd.las.las+xml", ["lasxml"]⟩,
   ⟨"application/vnd.llamagraphics.life-balance.desktop", ["lbd"]⟩,
   ⟨"application/vnd.llamagraphics.life-balance.exchange+xml", ["lbe"]⟩,
   ⟨"application/vnd.lotus-1-2-3", ["123"]⟩,
   ⟨"application/vnd.lotus-approach", ["apr"]⟩,
   ⟨"application/vnd.lotus-freelance", ["pre"]⟩,
   ⟨"application/vnd.lotus-notes", ["nsf"]⟩,
   ⟨"application/vnd.lotus-organizer", ["org"]⟩,
   ⟨"application/vnd.lotus-screencam", ["scm"]⟩,
   ⟨"application/vnd.lotus-wordpro", ["lwp"]⟩,
   ⟨"application/vnd.macports.portpkg", ["portpkg"]⟩,
   ⟨"application/vnd.mcd", ["mcd"]⟩,
   ⟨"application/vnd.medcalcdata", ["mc1"]⟩,
   ⟨"application/vnd.mediastation.cdkey", ["cdkey"]⟩,
   ⟨"application/vnd.mfer", ["mwf"]⟩,
   ⟨"application/vnd.mfmp", ["mfm"]⟩,
   ⟨"application/vnd.micrografx.flo", ["flo"]⟩,
   ⟨"application/vnd.micrografx.igx", ["igx"]⟩,
   ⟨"application/vnd.mif", ["mif"]⟩,
   ⟨"application/vnd.mobius.daf", ["daf"]⟩,
   ⟨"application/vnd.mobius.dis", ["dis"]⟩,
   ⟨"application/vnd.mobius.mbk", ["mbk"]⟩,
   ⟨"application/vnd.mobius.mqy", ["mqy"]⟩,
   ⟨"application/vnd.mobius.msl", ["msl"]⟩,
   ⟨"application/vnd.mobius.plc", ["plc"]⟩,
   ⟨"application/vnd.mobius.txf", ["txf"]⟩,
   ⟨"application/vnd.mophun.application", ["mpn"]⟩,
   ⟨"application/vnd.mophun.certificate", ["mpc"]⟩,
   ⟨"application/vnd.mozilla.xul+xml", ["xul"]⟩,
   ⟨"application/vnd.ms-artgalry", ["cil"]⟩,
   ⟨"application/vnd.ms-excel",
     ["slk", "xla", "xlc", "xld", "xlk", "xll", "xlm", "xls", "xlt", "xlw"]⟩,
   ⟨"application/vnd.ms-excel.addin.macroEnabled.12", ["xlam"]⟩,
   ⟨"application/vnd.ms-excel.sheet.binary.macroEnabled.12", ["xlsb"]⟩,
   ⟨"application/vnd.ms-excel.sheet.macroEnabled.12", ["xlsm"]⟩,
   ⟨"application/vnd.ms-excel.template.macroEnabled.12", ["xltm"]⟩,
   ⟨"application/vnd.ms-fontobject", ["eot"]⟩,
   ⟨"application/vnd.ms-ims", ["ims"]⟩,
   ⟨"application/vnd.ms-lrm", ["lrm"]⟩,
   ⟨"application/vnd.ms-mediapackage", ["mpf"]⟩,
   ⟨"application/vnd.ms-office.calx", ["calx"]⟩,
   ⟨"application/vnd.ms-officetheme", ["thmx"]⟩,
   ⟨"application/vnd.ms-outlook", ["msg", "pst"]⟩,
   ⟨"application/vnd.ms-pki.certstore", ["sst"]⟩,
   ⟨"application/vnd.ms-pki.pko", ["pko"]⟩,
   ⟨"application/vnd.ms-pki.seccat", ["cat"]⟩,
   ⟨"application/vnd.ms-pki.stl", ["stl"]⟩,
   ⟨"application/vnd.ms-powerpoint", ["pot", "ppa", "pps", "ppt", "pwz"]⟩,
   ⟨"application/vnd.ms-powerpoint.addin.macroEnabled.12", ["ppam"]⟩,
   ⟨"application/vnd.ms-powerpoint.presentation.macroEnabled.12", ["pptm"]⟩,
   ⟨"application/vnd.ms-powerpoint.slide.macroEnabled.12", ["sldm"]⟩,
   ⟨"application/vnd.ms-powerpoint.slideshow.macroEnabled.12", ["ppsm"]⟩,
   ⟨"application/vnd.ms-powerpoint.template.macroEnabled.12", ["potm"]⟩,
   ⟨"application/vnd.ms-project", ["mpp", "mpt"]⟩,
   ⟨"application/vnd.ms-visio.viewer", ["vdx"]⟩,
   ⟨"application/vnd.ms-word.document.macroEnabled.12", ["docm"]⟩,
   ⟨"application/vnd.ms-word.template.macroEnabled.12", ["dotm"]⟩,
   ⟨"application/vnd.ms-works", ["wcm", "wdb", "wks", "wps"]⟩,
   ⟨"application/vnd.ms-wpl", ["wpl"]⟩,
   ⟨"application/vnd.ms-xpsdocument", ["xps"]⟩,
   ⟨"application/vnd.mseq", ["mseq"]⟩,
   ⟨"application/vnd.musician", ["mus"]⟩,
   ⟨"application/vnd.muvee.style", ["msty"]⟩,
   ⟨"application/vnd.mynfc", ["taglet"]⟩,
   ⟨"application/vnd.neurolanguage.nlu", ["nlu"]⟩,
   ⟨"application/vnd.nitf", ["nitf", "ntf"]⟩,
   ⟨"application/vnd.noblenet-directory", ["nnd"]⟩,
   ⟨"application/vnd.noblenet-sealer", ["nns"]⟩,
   ⟨"application/vnd.noblenet-web", ["nnw"]⟩,
   ⟨"application/vnd.nokia.n-gage.data", ["ngdat"]⟩,
   ⟨"application/vnd.nokia.n-gage.symbian.install", ["n-gage"]⟩,
   ⟨"application/vnd.nokia.radio-preset", ["rpst"]⟩,
   ⟨"application/vnd.nokia.radio-presets", ["rpss"]⟩,
   ⟨"application/vnd.novadigm.edm", ["edm"]⟩,
   ⟨"application/vnd.novadigm.edx", ["edx"]⟩,
   ⟨"application/vnd.novadigm.ext", ["ext"]⟩,
   ⟨"application/vnd.oasis.opendocument.chart", ["odc"]⟩,
   ⟨"application/vnd.oasis.opendocument.chart-template", ["otc"]⟩,
   ⟨"application/vnd.oasis.opendocument.database", ["odb"]⟩,
   ⟨"application/vnd.oasis.opendocument.formula", ["odf"]⟩,
   ⟨"application/vnd.oasis.opendocument.formula-template", ["odft"]⟩,
   ⟨"application/vnd.oasis.opendocument.graphics", ["odg"]⟩,
   ⟨"application/vnd.oasis.opendocument.graphics-template", ["otg"]⟩,
   ⟨"application/vnd.oasis.opendocument.image", ["odi"]⟩,
   ⟨"application/vnd.oasis.opendocument.image-template", ["oti"]⟩,
   ⟨"application/vnd.oasis.opendocument.presentation", ["odp"]⟩,
   ⟨"application/vnd.oasis.opendocument.presentation-template", ["otp"]⟩,
   ⟨"application/vnd.oasis.opendocument.spreadsheet", ["ods"]⟩,
   ⟨"application/vnd.oasis.opendocument.spreadsheet-template", ["ots"]⟩,
   ⟨"application/vnd.oasis.opendocument.text", ["odt"]⟩,
   ⟨"application/vnd.oasis.opendocument.text-master", ["odm"]⟩,
   ⟨"application/vnd.oasis.opendocument.text-template", ["ott"]⟩,
   ⟨"application/vnd.oasis.opendocument.text-web", ["oth"]⟩,
   ⟨"application/vnd.olpc-sugar", ["xo"]⟩,
   ⟨"application/vnd.oma.dd2+xml", ["dd2"]⟩,
   ⟨"application/vnd.openofficeorg.extension", ["oxt"]⟩,
   ⟨"application/vnd.openxmlformats-officedocument.presentationml.presentation", ["pptx"]⟩,
   ⟨"application/vnd.openxmlformats-officedocument.presentationml.slide", ["sldx"]⟩,
   ⟨"application/vnd.openxmlformats-officedocument.presentationml.slideshow", ["ppsx"]⟩,
   ⟨"application/vnd.openxmlformats-officedocument.presentationml.template", ["potx"]⟩,
   ⟨"application/vnd.openxmlformats-officedocument.spreadsheetml.sheet", ["xlsx"]⟩,
   ⟨"application/vnd.openxmlformats-officedocument.spreadsheetml.template", ["xltx"]⟩,
   ⟨"application/vnd.openxmlformats-officedocument.wordprocessingml.document", ["docx"]⟩,
   ⟨"application/vnd.openxmlformats-officedocument.wordprocessingml.template", ["dotx"]⟩,
   ⟨"application/vnd.osgeo.mapguide.package", ["mgp"]⟩,
   ⟨"application/vnd.osgi.dp", ["dp"]⟩,
   ⟨"application/vnd.osgi.subsystem", ["esa"]⟩,
   ⟨"application/vnd.palm", ["oprc", "pdb", "pqa"]⟩,
   ⟨"application/vnd.pawaafile", ["paw"]⟩,
   ⟨"application/vnd.pg.format", ["str"]⟩,
   ⟨"application/vnd.pg.osasli", ["ei6"]⟩,
   ⟨"application/vnd.picsel", ["efif"]⟩,
   ⟨"application/vnd.pmi.widget", ["wg"]⟩,
   ⟨"application/vnd.pocketlearn", ["plf"]⟩,
   ⟨"application/vnd.powerbuilder6", ["pbd"]⟩,
   ⟨"application/vnd.previewsystems.box", ["box"]⟩,
   ⟨"application/vnd.proteus.magazine", ["mgz"]⟩,
   ⟨"application/vnd.publishare-delta-tree", ["qps"]⟩,
   ⟨"application/vnd.pvi.ptid1", ["ptid"]⟩,
   ⟨"application/vnd.quark.quarkxpress", ["qwd", "qwt", "qxb", "qxl", "qxt"]⟩,
   ⟨"application/vnd.realvnc.bed", ["bed"]⟩,
   ⟨"application/vnd.recordare.musicxml", ["mxl"]⟩,
   ⟨"application/vnd.recordare.musicxml+xml", ["musicxml"]⟩,
   ⟨"application/vnd.rig.cryptonote", ["cryptonote"]⟩,
   ⟨"application/vnd.rn-realmedia", ["rm"]⟩,
   ⟨"application/vnd.rn-realmedia-vbr", ["rmvb"]⟩,
   ⟨"application/vnd.rn-rn_music_package", ["rmp"]⟩,
   ⟨"application/vnd.route66.link66+xml", ["link66"]⟩,
   ⟨"application/vnd.sailingtracker.track", ["st"]⟩,
   ⟨"application/vnd.seemail", ["see"]⟩,
   ⟨"application/vnd.sema", ["sema"]⟩,
   ⟨"application/vnd.semd", ["semd"]⟩,
   ⟨"application/vnd.semf", ["semf"]⟩,
   ⟨"application/vnd.shana.informed.formdata", ["ifm"]⟩,
   ⟨"application/vnd.shana.informed.formtemplate", ["itp"]⟩,
   ⟨"application/vnd.shana.informed.interchange", ["iif"]⟩,
   ⟨"application/vnd.shana.informed.package", ["ipk"]⟩,
   ⟨"application/vnd.simtech-mindmapper", ["twd", "twds"]⟩,
   ⟨"application/vnd.smart.teacher", ["teacher"]⟩,
   ⟨"application/vnd.solent.sdkm+xml", ["sdkd", "sdkm"]⟩,
   ⟨"application/vnd.spotfire.dxp", ["dxp"]⟩,
   ⟨"application/vnd.spotfire.sfs", ["sfs"]⟩,
   ⟨"application/vnd.stardivision.calc", ["sdc"]⟩,
   ⟨"application/vnd.stardivision.draw", ["sda"]⟩,
   ⟨"application/vnd.stardivision.impress", ["sdd"]⟩,
   ⟨"application/vnd.stardivision.math", ["smf"]⟩,
   ⟨"application/vnd.stardivision.writer", ["sdw", "vor"]⟩,
   ⟨"application/vnd.stardivision.writer-global", ["sgl"]⟩,
   ⟨"application/vnd.stepmania.package", ["smzip"]⟩,
   ⟨"application/vnd.stepmania.stepchart", ["sm"]⟩,
   ⟨"application/vnd.sun.wadl+xml", ["wadl"]⟩,
   ⟨"application/vnd.sun.xml.calc", ["sxc"]⟩,
   ⟨"application/vnd.sun.xml.calc.template", ["stc"]⟩,
   ⟨"application/vnd.sun.xml.draw", ["sxd"]⟩,
   ⟨"application/vnd.sun.xml.draw.template", ["std"]⟩,
   ⟨"application/vnd.sun.xml.impress", ["sxi"]⟩,
   ⟨"application/vnd.sun.xml.impress.template", ["sti"]⟩,
   ⟨"application/vnd.sun.xml.math", ["sxm"]⟩,
   ⟨"application/vnd.sun.xml.writer", ["sxw"]⟩,
   ⟨"application/vnd.sun.xml.writer.global", ["sxg"]⟩,
   ⟨"application/vnd.sun.xml.writer.template", ["stw"]⟩,
   ⟨"application/vnd.sus-calendar", ["sus", "susp"]⟩,
   ⟨"application/vnd.svd", ["svd"]⟩,
   ⟨"application/vnd.symbian.install", ["sis", "sisx"]⟩,
   ⟨"application/vnd.syncml+xml", ["xsm"]⟩,
   ⟨"application/vnd.syncml.dm+wbxml", ["bdm"]⟩,
   ⟨"application/vnd.syncml.dm+xml", ["xdm"]⟩,
   ⟨"application/vnd.tao.intent-module-archive", ["tao"]⟩,
   ⟨"application/vnd.tcpdump.pcap", ["cap", "dmp", "pcap"]⟩,
   ⟨"application/vnd.tmobile-livetv", ["tmo"]⟩,
   ⟨"application/vnd.trid.tpt", ["tpt"]⟩,
   ⟨"application/vnd.triscape.mxs", ["mxs"]⟩,
   ⟨"application/vnd.trueapp", ["tra"]⟩,
   ⟨"application/vnd.ufdl", ["ufd", "ufdl"]⟩,
   ⟨"application/vnd.uiq.theme", ["utz"]⟩,
   ⟨"application/vnd.umajin", ["umj"]⟩,
   ⟨"application/vnd.unity", ["unityweb"]⟩,
   ⟨"application/vnd.uoml+xml", ["uoml"]⟩,
   ⟨"application/vnd.vcx", ["vcx"]⟩,
   ⟨"application/vnd.visio", ["vsd", "vss", "vst", "vsw", "vsx", "vtx"]⟩,
   ⟨"application/vnd.visionary", ["vis"]⟩,
   ⟨"application/vnd.vsf", ["vsf"]⟩,
   ⟨"application/vnd.wap.wbxml", ["wbxml"]⟩,
   ⟨"application/vnd.wap.wmlc", ["wmlc"]⟩,
   ⟨"application/vnd.wap.wmlscriptc", ["wmlsc"]⟩,
   ⟨"application/vnd.webturbo", ["wtb"]⟩,
   ⟨"application/vnd.wolfram.player", ["nbp"]⟩,
   ⟨"application/vnd.wordperfect", ["wpd"]⟩,
   ⟨"application/vnd.wqd", ["wqd"]⟩,
   ⟨"application/vnd.wt.stf", ["stf"]⟩,
   ⟨"application/vnd.xara", ["xar"]⟩,
   ⟨"application/vnd.xfdl", ["xfdl"]⟩,
   ⟨"application/vnd.yamaha.hv-dic", ["hvd"]⟩,
   ⟨"application/vnd.yamaha.hv-script", ["hvs"]⟩,
   ⟨"application/vnd.yamaha.hv-voice", ["hvp"]⟩,
   ⟨"application/vnd.yamaha.openscoreformat", ["osf"]⟩,
   ⟨"application/vnd.yamaha.openscoreformat.osfpvg+xml", ["osfpvg"]⟩,
   ⟨"application/vnd.yamaha.smaf-audio", ["saf"]⟩,
   ⟨"application/vnd.yamaha.smaf-phrase", ["spf"]⟩,
   ⟨"application/vnd.yellowriver-custom-menu", ["cmp"]⟩,
   ⟨"application/vnd.zul", ["zir", "zirz"]⟩,
   ⟨"application/vnd.zzazz.deck+xml", ["zaz"]⟩]

end Signpost
