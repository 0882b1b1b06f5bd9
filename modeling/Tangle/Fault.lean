import Tangle.FileTree

/-!
# Faults

A fault is an error that ends a run. What has been written and logged before it stays.
-/

namespace Tangle

/-- The errors of a run: why it ends early. -/
inductive Fault where
  | io (cause : IoFault)
  | missingDocument (path : Text)
  | missingTemplateDirectory (path : Text)
  | templateDirectoryExtension (path suffix : Text)
  | invalidTemplateExtension (file suffix : Text)
  /-- The identifier of a template is no search pattern. -/
  | templatePattern (template : Text)
  /-- The text of a template is faulty or cannot be evaluated. -/
  | templateRender (template : Text)
  | missingOutputDirectory (path : Text)
  | configNotFound (path : Text)
  | configParse (path : Text)
  | filterPattern (pattern : Text)
  deriving Repr, DecidableEq

namespace Fault

/-- The wording of an input or output fault. -/
def ioMessage : IoFault → Text
  | .notFound => "entity not found".toList
  | .notADirectory => "not a directory".toList
  | .isADirectory => "is a directory".toList
  | .invalidData => "stream did not contain valid UTF-8".toList
  | .invalidFilename => "invalid filename".toList
  | .invalidInput => "invalid input parameter".toList

/-- The wording of a fault. -/
def message : Fault → Text
  | .io cause => ioMessage cause
  | .missingDocument path => "unable to find markdown file `".toList ++ path ++ ['\x60']
  | .missingTemplateDirectory path =>
    "unable to find template directory `".toList ++ path ++ ['\x60']
  | .templateDirectoryExtension path suffix =>
    "template directory `".toList ++ path ++ "` must end with extension `.".toList ++ suffix ++
      "` or have none".toList
  | .invalidTemplateExtension file _ =>
    "unexpected extension for template file `".toList ++ file ++ ['\x60']
  | .templatePattern template =>
    "invalid template search pattern for `".toList ++ template ++ ['\x60']
  | .templateRender template =>
    "template rendering failed for `".toList ++ template ++ ['\x60']
  | .missingOutputDirectory path =>
    "unable to find diff output directory `".toList ++ path ++ ['\x60']
  | .configNotFound path => "config file `".toList ++ path ++ "` not found".toList
  | .configParse path => "failed to parse config file `".toList ++ path ++ ['\x60']
  | .filterPattern pattern => "invalid filter pattern `".toList ++ pattern ++ ['\x60']

/-- The code by which the command line names a fault. -/
def code : Fault → Text
  | .io _ => "literate::io_error".toList
  | .missingDocument _ => "literate::missing_document".toList
  | .missingTemplateDirectory _ => "literate::missing_template_directory".toList
  | .templateDirectoryExtension .. => "literate::template_directory_extension".toList
  | .invalidTemplateExtension .. => "literate::invalid_template_extension".toList
  | .templatePattern _ => "literate::template_pattern".toList
  | .templateRender _ => "literate::template_render".toList
  | .missingOutputDirectory _ => "literate::missing_output_directory".toList
  | .configNotFound _ => "literate::config_not_found".toList
  | .configParse _ => "literate::config_parse".toList
  | .filterPattern _ => "literate::filter_pattern".toList

end Fault

end Tangle
