import CssInline.Text.Quoted

/-! What a user sets. -/

namespace CssInline

structure Options where
  /-- The endings of paths that name style modules. -/
  extensions : List String := [".css"]
  /-- The identifier that tags style templates. -/
  tag : String := "css"
  /-- Stop at the first failure instead of reporting it. -/
  strict : Bool := false
deriving DecidableEq

namespace Options

def quote (text : String) : String :=
  String.ofList (Text.quoted text.toList)

def describe (options : Options) : String :=
  "PluginOptions \x7b extensions: [" ++ ", ".intercalate (options.extensions.map quote) ++
    "], namespace: " ++ quote options.tag ++
    ", throw_on_error: " ++ (if options.strict then "true" else "false") ++ " \x7d"

end Options

end CssInline
