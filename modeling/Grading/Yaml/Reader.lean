import Grading.Files.Document
import Grading.Yaml.Value

/-!
# Reader — documents in this notation

A stream is read to its end before the notation is looked at.
-/

namespace Grading.Yaml

open Grading.Files

def reader : DocumentReader := fun s =>
  match s.error with
  | some e => .error (.fault ⟨"UnicodeDecodeError", e.text⟩)
  | none =>
    match read s.text.toList with
    | .ok d => .ok d
    | .error (.value f) => .error (.fault f)
    | .error _ => .error .malformed

end Grading.Yaml
