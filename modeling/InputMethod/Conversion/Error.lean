import InputMethod.Files
import InputMethod.Json.Reader
import InputMethod.Conversion.Fst

/-! # Errors of loading conversions

What can go wrong when a conversion configuration or a dictionary is loaded, and how each is
described.
-/

namespace InputMethod

/-- Why a conversion configuration or dictionary could not be loaded. -/
inductive ConversionError where
  | io (path : String) (error : FileError)
  /-- A configuration is no JSON, or not of the expected shape. -/
  | json (path : String) (error : Json.Error)
  | unsupportedDict (file : String)
  | unsupportedSegmentation (kind : String)
  | malformedDict (path : String) (line : Nat) (message : String)
  /-- The keys of a text dictionary could not be indexed. -/
  | fst (error : FstError)
  | emptyChain
  | legacyConfig (key : String)

/-- The description of an error. -/
def ConversionError.message : ConversionError → String
  | .io path e => "IO error: " ++ path ++ ": " ++ e.message
  | .json path e => "JSON error in " ++ path ++ ": " ++ e.message
  | .unsupportedDict file => "Unsupported dictionary type: " ++ file
  | .unsupportedSegmentation kind => "Unsupported segmentation type: " ++ kind
  | .malformedDict path line message =>
    "Malformed dictionary " ++ path ++ " at line " ++ toString line ++ ": " ++ message
  | .fst e => "FST error: " ++ e.message
  | .emptyChain => "Conversion chain is empty"
  | .legacyConfig key => "Legacy config " ++ key ++ " is not supported, use a JSON config"

end InputMethod
