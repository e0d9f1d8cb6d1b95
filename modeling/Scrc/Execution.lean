import Scrc.Go

/-!
# Domain types

The types of package `execution`: scripts with their limits and tests, results with their status,
and the report on one script.
-/

namespace Scrc

/-- `type Status string`.  The constants below are the ones the service uses; a value of the type
can be any string, the empty one included. -/
structure Status where
  text : GoString
  deriving DecidableEq, Inhabited

namespace Status

/-- The script finished within the configured limits. -/
def ok : Status := ⟨"OK"⟩
/-- The script finished but produced an unexpected output. -/
def wrongAnswer : Status := ⟨"WA"⟩
/-- The script was terminated for exceeding the time limit. -/
def timeLimit : Status := ⟨"TL"⟩
/-- The script was terminated for exceeding the memory limit. -/
def memoryLimit : Status := ⟨"ML"⟩
/-- The script failed to build. -/
def buildFail : Status := ⟨"BF"⟩
/-- The test was not executed. -/
def notRun : Status := ⟨"-"⟩
/-- The zero value. -/
def unset : Status := ⟨[]⟩

theorem unset_ne_ok : unset ≠ ok := by decide
theorem wrongAnswer_ne_ok : wrongAnswer ≠ ok := by decide
theorem notRun_ne_ok : notRun ≠ ok := by decide
theorem notRun_ne_wrongAnswer : notRun ≠ wrongAnswer := by decide

end Status

/-- `type Language string`. -/
structure Language where
  name : GoString
  deriving DecidableEq, Inhabited

namespace Language

def python : Language := ⟨"python"⟩
def go : Language := ⟨"go"⟩
def c : Language := ⟨"c"⟩
def cpp : Language := ⟨"cpp"⟩
def java : Language := ⟨"java"⟩

end Language

/-- Optional resource boundaries; zero means no limit. -/
structure RunLimits where
  timeLimit : Duration
  memoryLimitBytes : Int64
  deriving DecidableEq, Inhabited

/-- A stdin/stdout expectation. -/
structure TestCase where
  number : Int
  input : GoString
  expectedOutput : GoString
  deriving DecidableEq, Inhabited

/-- The outcome of one test case.  The default value is Go's zero value. -/
structure TestResult where
  case : TestCase := ⟨0, [], []⟩
  status : Status := .unset
  stdout : GoString := []
  stderr : GoString := []
  exitCode : Int64 := 0
  duration : Duration := 0
  error : GoString := []
  deriving DecidableEq

instance : Inhabited TestResult := ⟨{}⟩

/-- The outcome of executing a script. -/
structure Result where
  status : Status := .unset
  stdout : GoString := []
  stderr : GoString := []
  exitCode : Int64 := 0
  duration : Duration := 0
  tests : List TestResult := []
  deriving DecidableEq

instance : Inhabited Result := ⟨{}⟩

/-- A unit of source code ready for execution. -/
structure Script where
  id : GoString
  language : Language
  source : GoString
  limits : RunLimits := ⟨0, 0⟩
  tests : List TestCase := []
  deriving DecidableEq, Inhabited

/-- The outcome of executing a script: `result` and `err` are nil pointers when absent. -/
structure RunReport where
  script : Script
  result : Option Result := none
  err : Option GoError := none
  deriving DecidableEq, Inhabited

end Scrc
