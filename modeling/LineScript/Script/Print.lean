import LineScript.Script.Line

/-!
# Writing script lines
The plainest way to write a line: guards as they print, then the prefix, then the command and its
arguments as quoted words, then the background mark.
-/
namespace LineScript.Script

/-- The word that stands for an expectation, if one does. -/
def Expect.marks : Expect → List String
  | .success => []
  | .failure => ["!"]
  | .any => ["?"]

/-- The words of a written line. -/
def Line.printedWords (line : Line) : List String :=
  line.guards.map Guard.print ++ line.want.marks ++ (line.name :: line.args).map quoteWord ++
    (if line.background then ["&"] else [])

/-- The line as it is written, one space between words. -/
def Line.print (line : Line) : String := " ".intercalate line.printedWords

end LineScript.Script
