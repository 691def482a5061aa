import Workbench.Shell.Printf
import Workbench.Shell.Process
import Workbench.Shell.State

/-!
# Programs

The programs besides the shell: two that only succeed or fail, two that write their arguments, one
that writes files, and one that waits.
-/

namespace Workbench.Shell

open Text (Bytes)

/-! ## echo -/

/--
The arguments with a blank between neighbours.  Leading options tell whether a newline ends them and
whether escapes are read.
-/
def echoProgram (s : Start) : Ended :=
  let isOption (t : Text) : Bool :=
    match t with
    | '-' :: c :: cs => (c :: cs).all ['n', 'e', 'E'].contains
    | _ => false
  let options := (s.arguments.takeWhile isOption).flatMap List.tail
  let text := State.joined (s.arguments.dropWhile isOption)
  let escapes := (options.filter (· ≠ 'n')).getLast? = some 'e'
  let (b, stop) :=
    if escapes then
      expandEscapes { zero := true, stop := true, hexadecimal := true } text
    else (Octets.toBytes text, false)
  s.leaves [(.out, if options.contains 'n' ∨ stop then b else b ++ [10])] 0

/-! ## printf -/

/-- three octal digits -/
def octal (n : Nat) : Text := (Nat.toDigits 8 (0o1000 + n)).tail

/-- a byte of a text in quotes -/
def quoteByte (b : UInt8) : Text :=
  match b.toNat with
  | 7 => ['\\', 'a']
  | 8 => ['\\', 'b']
  | 9 => ['\\', 't']
  | 10 => ['\\', 'n']
  | 11 => ['\\', 'v']
  | 12 => ['\\', 'f']
  | 13 => ['\\', 'r']
  | 39 => ['\\', '\'']
  | 92 => ['\\', '\\']
  | n => if 32 ≤ n ∧ n < 127 then [Char.ofNat n] else '\\' :: octal n

/-- a text in single quotes, in printed ASCII characters alone -/
def quoted (t : Text) : Text := '\'' :: (Octets.toBytes t).flatMap quoteByte ++ ['\'']

/-- what is said of an argument that is not the number that it should be -/
def misfitMessage (t : Text) : Misfit → Bytes
  | .noNumber => Octets.toBytes (quoted t ++ ": expected a numeric value".toList)
  | .continued => Octets.toBytes (quoted t ++ ": value not completely converted".toList)
  | .outOfRange => Octets.toBytes (quoted t ++ ": Numerical result out of range".toList)
  | .ignored rest =>
    Octets.toBytes "warning: ".toList ++ rest ++ Octets.toBytes
      ": character(s) following character constant have been ignored".toList

def printfProgram (s : Start) : Ended :=
  let args := match s.arguments with | ['-', '-'] :: r => r | r => r
  let line (b : Bytes) : Channel × Bytes :=
    (.err, Octets.toBytes (s.called ++ ": ".toList) ++ b ++ [10])
  let message (t : Text) : Channel × Bytes := line (Octets.toBytes t)
  match args with
  | [] => s.fails [s.withHelp "missing operand".toList]
  | f :: rest =>
    let escapes : EscapeStyle := { stop := true, quote := true, hexadecimal := true }
    let style : FormatStyle := ⟨escapes, .extended, true⟩
    let (w, bad) := format style f rest
    let written := (.out, w.bytes) :: w.misfits.map fun m => line (misfitMessage m.1 m.2)
    match bad with
    | some t => s.leaves (written ++ [message (t ++ ": invalid conversion specification".toList)]) 1
    | none =>
      let unused :=
        match w.arguments with
        | a :: _ =>
          if w.stop then []
          else
            [message ("warning: ignoring excess arguments, starting with ".toList ++ quoted a)]
        | [] => []
      s.leaves (written ++ unused) (if w.misfits.any (·.2.isFault) then 1 else 0)

/-! ## cat -/

/-- writes files one after another; a dash stands for what there is to read -/
def catFiles : List Text → Start → Ended
  | [], s => s.leaves [] 0
  | path :: paths, s =>
    if path = ['-'] then
      let e := catFiles paths { s with input := [] }
      { e with written := (.out, s.input) :: e.written }
    else
      let e := catFiles paths s
      match s.files.read (Octets.toText path) with
      | .ok b => { e with written := (.out, b) :: e.written }
      | .error r =>
        let m := s.called ++ ": ".toList ++ path ++ ": ".toList ++ r.reason.toList ++ ['\n']
        { e with written := (.err, Octets.toBytes m) :: e.written, ending := .code 1 }

def catProgram (s : Start) : Ended :=
  let isOption (t : Text) : Bool := t = ['-', 'u'] || t = ['-', '-']
  match s.arguments.filter fun t => !isOption t with
  | [] => catFiles [['-']] s
  | paths => catFiles paths s

/-! ## sleep -/

/-- whether a text is a length of time: a decimal number, and perhaps a letter for its unit -/
def isInterval (t : Text) : Bool :=
  let number := if t.getLast?.any ['s', 'm', 'h', 'd'].contains then t.dropLast else t
  t = "infinity".toList || (number.any Char.isDigit && number.all (fun c => c.isDigit || c = '.')
    && number.count '.' ≤ 1)

/-- waits, which nobody can see -/
def sleepProgram (s : Start) : Ended :=
  match s.arguments, (s.arguments.filter fun t => !isInterval t).reverse with
  | [], _ => s.fails [s.withHelp "missing operand".toList]
  | _, [] => s.leaves [] 0
  | _, last :: before =>
    let text (t : Text) : Text := "invalid time interval '".toList ++ t ++ ['\'']
    s.fails (before.reverse.map text ++ [s.withHelp (text last)])

/-! ## programs by name -/

/-- a program by its name -/
def program? (name : String) : Option (Start → Ended) :=
  match name with
  | "true" => some fun s => s.leaves [] 0
  | "false" => some fun s => s.leaves [] 1
  | "cat" => some catProgram
  | "echo" => some echoProgram
  | "printf" => some printfProgram
  | "sleep" => some sleepProgram
  | _ => none

/-- the names of the shell as a program -/
def shellNames : List String := ["sh", "dash"]

/-- where a program is, by its name -/
def locate? (name : Text) : Option Text :=
  let s := String.ofList name
  if (program? s).isSome ∨ shellNames.contains s then some ("/usr/bin/".toList ++ name) else none

end Workbench.Shell
