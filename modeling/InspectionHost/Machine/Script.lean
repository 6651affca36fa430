/-!
# Scripts

The programs of a machine are scripts: lists of steps that write, look at what they were
started with, wait, and end.

## Main definitions

* `Step` : what a script can do.
* `Step.weight` : a bound on the steps that a step can lead to.
* `Script` : the steps of a program, and the name that its runs are counted under.
-/

namespace InspectionHost

/-- A step of a script. -/
inductive Step where
  /-- Write to the output. -/
  | out (bytes : List UInt8)
  /-- Write to the error output. -/
  | err (bytes : List UInt8)
  /-- Write the argument with the given number, from 1 on; nothing if there is none. -/
  | argument (number : Nat)
  /-- Write how many arguments there are. -/
  | argumentCount
  /-- Write the value of an environment variable; nothing if it is not set. -/
  | variable (name : String)
  /-- Write the last component of the working directory. -/
  | directoryName
  /-- Copy the input to the output. -/
  | copyInput
  /-- Write how often this program has been run, with this run. -/
  | runCount
  /-- Make sure that a file exists. -/
  | touch (path : String)
  /-- Wait until a file exists. -/
  | await (path : String)
  /-- Do further steps if an argument is exactly the given one. -/
  | ifArgument (number : Nat) (expected : List UInt8) (steps : List Step)
  /-- Start a child in the background that keeps the output open for three seconds. -/
  | linger
  /-- Become a program that sleeps for five seconds and ends by success. -/
  | hang
  /-- End with an exit code. -/
  | exit (code : Nat)
  /-- Send a signal to oneself. -/
  | signal (number : Nat)
  deriving Repr

namespace Step

/-- How many steps a step can lead to, with itself. -/
def weight : Step → Nat
  | ifArgument _ _ steps => 1 + weights steps
  | _ => 1
where
  /-- How many steps a list of steps can lead to. -/
  weights : List Step → Nat
    | [] => 0
    | s :: rest => s.weight + weights rest

end Step

/-- A program of a machine. -/
structure Script where
  /-- The name under which runs are counted, if they are. -/
  name : Option String
  steps : List Step
  deriving Repr

end InspectionHost
