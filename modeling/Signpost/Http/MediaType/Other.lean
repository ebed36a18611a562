import Signpost.Http.MediaType.Format

/-!
Media types of fonts, messages, models and worlds.
-/

namespace Signpost

/-- Formats of fonts, messages, models, molecules and worlds. -/
def otherFormats : List MediaFormat :=
  [⟨"chemical/x-cdx", ["cdx"]⟩,
   ⟨"chemical/x-cif", ["cif"]⟩,
   ⟨"chemical/x-cmdf", ["cmdf"]⟩,
   ⟨"chemical/x-cml", ["cml"]⟩,
   ⟨"chemical/x-csml", ["csml"]⟩,
   ⟨"chemical/x-xyz", ["xyz"]⟩,
   ⟨"drawing/x-dwf", ["dwf"]⟩,
   ⟨"font/collection", ["ttc"]⟩,
   ⟨"font/otf", ["otf"]⟩,
   ⟨"font/ttf", ["ttf"]⟩,
   ⟨"font/woff2", ["woff2"]⟩,
   ⟨"message/disposition-notification", ["disposition-notification"]⟩,
   ⟨"message/global", ["u8msg"]⟩,
   ⟨"message/global-delivery-status", ["u8dsn"]⟩,
   ⟨"message/global-disposition-notification", ["u8mdn"]⟩,
   ⟨"message/global-headers", ["u8hdr"]⟩,
   ⟨"message/rfc822", ["eml", "mht", "mhtml", "mime", "nws"]⟩,
   ⟨"model/3mf", ["3mf"]⟩,
   ⟨"model/gltf+json", ["gltf"]⟩,
   ⟨"model/gltf-binary", ["glb"]⟩,
   ⟨"model/iges", ["iges", "igs"]⟩,
   ⟨"model/mesh", ["mesh", "msh", "silo"]⟩,
   ⟨"model/vnd.collada+xml", ["dae"]⟩,
   ⟨"model/vnd.gdl", ["gdl"]⟩,
   ⟨"model/vnd.gtw", ["gtw"]⟩,
   ⟨"model/vnd.opengex", ["ogex"]⟩,
   ⟨"model/vnd.parasolid.transmit.binary", ["x_b"]⟩,
   ⟨"model/vnd.parasolid.transmit.text", ["x_t"]⟩,
   ⟨"model/vnd.usdz+zip", ["usdz"]⟩,
   ⟨"model/vnd.valve.source.compiled-map", ["bsp"]⟩,
   ⟨"model/vnd.vtu", ["vtu"]⟩,
   ⟨"model/vrml", ["vrml"]⟩,
   ⟨"model/x3d+binary", ["x3db", "x3dbz"]⟩,
   ⟨"model/x3d+vrml", ["x3dv", "x3dvz"]⟩,
   ⟨"model/x3d+xml", ["x3d", "x3dz"]⟩,
   ⟨"x-conference/x-cooltalk", ["ice"]⟩,
   ⟨"x-world/x-vrml", ["flr", "wrl", "wrz", "xaf", "xof"]⟩]

end Signpost
