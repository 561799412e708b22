import CodeReview.Files.Inspect
import CodeReview.SelfCheck.Basic
import CodeReview.Source.Description
import CodeReview.Text.Layout

/-!
The sheet about sources, files, texts and digests.
-/

namespace CodeReview.SelfCheck

def outlineText : Text :=
  Text.unlines
    [[], "class MyClass:", "    def method1(self):", "        pass", [],
      "    def method2(self, arg):", "        return arg", [], "def standalone():",
      "    import os", "    from sys import path", "    return None", []]

open Source in
def sources (disk : Disk) : Sheet := do
  let _ ← readSource outlineText
  let functions ← functionsOf outlineText
  let classes ← classesOf outlineText
  let imports := findIn outlineText Node.imports
  let extracted (n : Nat) (what : Text) : Text :=
    passed ("Extracted " ++ Text.ofNat n ++ " " ++ what)
  let ready : Text := passedInside "Imports successful"
  let digest := Likeness.sourceDigest "def foo(): pass"
  let other := Likeness.sourceDigest "def bar(): pass"
  let counts := (← tallyLines "line1\nline2\nline3").toValue.shown
  return sheet "PARSERS AND UTILS"
    [List.flatten
        [["1. PARSERS", underline, passed "Parser imports successful",
            passed "Parsed code: ParsedCode", extracted functions.length "functions"],
          functions.map fun f => item f.name,
          [extracted classes.length "classes"],
          classes.map fun c => item c.name,
          [extracted imports.length "imports"],
          imports.map fun i => item i.toValue.shown],
      ["2. UTILS", underline,
        "   File Utils:", ready,
        passedInside ("is_binary_file works: " ++ yesNo (disk.isBinary "/tmp/test.txt")),
        "   Text Utils:", ready,
        passedInside ("truncate_text: \""
          ++ Text.truncate "Hello World this is a long text" 10 "..." ++ "\""),
        passedInside ("count_lines: " ++ counts),
        passedInside "highlight_line works",
        "   Hash Utils:", ready,
        passedInside ("hash_code: " ++ digest.take 16 ++ "..."),
        passedInside ("Same code same hash: "
          ++ yesNo (digest = Likeness.sourceDigest "def foo(): pass")),
        passedInside ("Different code different hash: " ++ yesNo (digest ≠ other))]]

end CodeReview.SelfCheck
