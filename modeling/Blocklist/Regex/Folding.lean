import Blocklist.Regex.CharSet
import Blocklist.Text.Case

/-! # Letters that differ in case only

Where the case of letters does not matter, a set of characters stands for all characters that differ
from one of its own in case only. `folded` finds them.
-/

namespace Blocklist.Regex

open Text (Spans)

/-- Capital letters that patterns do not know yet. -/
def recentCapitals : Spans :=
  (CharSet.listed ["a7ce a7d2 a7d4 16ea0-16eb8"]).spans

/-- Letters that have another form at the end of a word, in a ligature or as a symbol, each with the
small letter that it is a form of. -/
def letterForms : List (Nat × Nat) :=
  [(0x00b5, 0x03bc), (0x017f, 0x0073), (0x0345, 0x03b9), (0x03c2, 0x03c3), (0x03d0, 0x03b2),
   (0x03d1, 0x03b8), (0x03d5, 0x03c6), (0x03d6, 0x03c0), (0x03f0, 0x03ba), (0x03f1, 0x03c1),
   (0x03f5, 0x03b5), (0x1c80, 0x0432), (0x1c81, 0x0434), (0x1c82, 0x043e), (0x1c83, 0x0441),
   (0x1c84, 0x0442), (0x1c85, 0x0442), (0x1c86, 0x044a), (0x1c87, 0x0463), (0x1c88, 0xa64b),
   (0x1e9b, 0x1e61), (0x1fbe, 0x03b9), (0x1fd3, 0x0390), (0x1fe3, 0x03b0), (0xfb05, 0xfb06)]

/-- The letters of a run, each with its small letter. -/
def runPairs (run : Text.CaseRun) : List (Nat × Nat) :=
  (List.range ((run.last - run.first) / run.stride + 1)).map fun i =>
    (run.first + i * run.stride, run.image + i * run.stride)

/-- Letters with the small letter that each of them differs from in case only. No letter stands on
both sides. -/
def casePairs : List (Nat × Nat) :=
  (Text.caseRuns.flatMap runPairs).filter (fun pair => !recentCapitals.covers pair.1) ++ letterForms

/-- The set with all characters that differ from one of its own in case only. -/
def folded (set : Spans) : Spans :=
  let touched := casePairs.filter fun pair => set.covers pair.1 || set.covers pair.2
  let small : Spans := Spans.normal (touched.map fun pair => (pair.2, pair.2))
  let alike := casePairs.filter fun pair => small.covers pair.2
  set.union (Spans.normal (alike.flatMap fun pair => [(pair.1, pair.1), (pair.2, pair.2)]))

/-- The same for ASCII letters only. -/
def foldedAscii (set : Spans) : Spans :=
  let alike (pair : Nat × Nat) : Spans := [(pair.1, pair.1), (pair.2, pair.2)]
  let pairs := (List.range 26).map fun i => (0x41 + i, 0x61 + i)
  let touched := pairs.filter fun pair => set.covers pair.1 || set.covers pair.2
  set.union (Spans.normal (touched.flatMap alike))

end Blocklist.Regex
