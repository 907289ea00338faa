import CssInline.Config.Matcher
import CssInline.Options
import CssInline.Processor

/-! The settings that all files of a session share. -/

namespace CssInline

structure Config where
  matcher : Matcher
  /-- The identifier that tags style templates. -/
  tag : String
  processor : Processor
  /-- Stop at the first failure instead of reporting it. -/
  strict : Bool

namespace Config

/-- Fails when no extension is left. -/
def ofOptions? (options : Options) (processor : Processor) : Option Config :=
  (Matcher.ofExtensions? options.extensions).map fun matcher =>
    { matcher, tag := options.tag, processor, strict := options.strict }

def manages (config : Config) (path : String) : Bool :=
  config.matcher.manages path

def describe (config : Config) : String :=
  "Config \x7b extensions: " ++ String.ofList (Text.quoted config.matcher.pattern) ++
    ", namespace: " ++ Options.quote config.tag ++
    ", throw_on_error: " ++ (if config.strict then "true" else "false") ++ ", .. \x7d"

end Config

end CssInline
