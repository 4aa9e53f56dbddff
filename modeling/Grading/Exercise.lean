import Grading.Files.Path

/-!
# Exercise — what a learner works on
-/

namespace Grading

structure Exercise where
  id : String
  file : Files.Path
  deriving DecidableEq, Repr, Inhabited

end Grading
