import Fleet.Blank
import Fleet.Numeral

/-!
# Exit statuses

Where the exit status of a remote command is wanted, the command is followed by an `echo` of a fixed
marker and the status. `withProbe` adds that, and `extract` takes it off a line of output again:
what stands before the first marker is shown, the number after it is the status.

A process that ran here reports how it ended in a word, which `Termination.ofWaitStatus` reads.
-/

namespace Fleet

/-- Splits at the first place where `pattern` stands: what is before and what is after it. -/
def splitFirst (pattern : List Char) : List Char → Option (List Char × List Char)
  | [] => if pattern.isEmpty then some ([], []) else none
  | c :: rest =>
    if pattern.isPrefixOf (c :: rest) then some ([], (c :: rest).drop pattern.length)
    else (splitFirst pattern rest).map fun (before, after) => (c :: before, after)

namespace ExitStatus

/-- The text that announces an exit status. -/
def marker : String := "__FANOUT_RC__:"

/-- The status with which a client program reports a failure of its own. -/
def clientFailure : Int32 := 255

/-- A command followed by the report of its exit status. -/
def withProbe (command : String) : String :=
  command ++ "; echo " ++ marker ++ "$?"

/-- A list of characters without one newline at its end. -/
def chomp (cs : List Char) : List Char :=
  match cs.getLast? with
  | some '\n' => cs.dropLast
  | _ => cs

/-- The characters of a number at the front: digits, and a minus sign as the very first. -/
def numberChars : List Char → List Char
  | '-' :: rest => '-' :: rest.takeWhile Char.isDigit
  | cs => cs.takeWhile Char.isDigit

/-- Splits a line into what is to be shown of it and the exit status that it carries. Only the first
marker counts; a line without one comes back as it is. -/
def extract (line : String) : String × Option Int32 :=
  match splitFirst marker.toList line.toList with
  | none => (line, none)
  | some (before, after) =>
    (String.ofList (chomp before), Numeral.int32? (numberChars (dropBlanks after)))

end ExitStatus

/-- How a process ended, as far as is known. -/
inductive Termination where
  /-- By itself, with a status. -/
  | exited (status : Int32)
  /-- Killed by a signal. -/
  | signaled (signal : Int32)
  /-- Nobody knows. -/
  | unknown
  deriving Repr, DecidableEq

/-- Reads the word in which the system reports an end. The low seven bits are the signal; none of
them set means an exit with the next eight bits as status, all of them set means neither. -/
def Termination.ofWaitStatus (word : Int32) : Termination :=
  let signal := word.toInt % 128
  if signal = 0 then .exited (Int32.ofInt (word.toInt / 256 % 256))
  else if signal < 127 then .signaled (Int32.ofInt signal)
  else .unknown

end Fleet
