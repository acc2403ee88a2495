import CodeGrowth.Text.Phrase

/-!
# Language guess

A text is scored against idioms of the C family and of Java. Each signal adds its weight once,
however often it occurs. Without any signal, a semicolon or an opening brace still makes the text
look like either language. A label that settles for one dialect steers the selection to it.

There is an example snippet for each dialect: a function with two nested loops that calls itself.
Neither holds an idiom by which the dialects could be told apart.
-/
namespace CodeGrowth.Language
open Text

inductive Dialect where
  | c
  | java
  deriving DecidableEq, Repr

namespace Dialect

def name : Dialect → String
  | c => "c"
  | java => "java"

def all : List Dialect := [c, java]

end Dialect

inductive Label where
  | java
  | cFamily
  | generic
  | mixed
  | pseudo
  | unclassified
  deriving DecidableEq, Repr

namespace Label

def name : Label → String
  | java => "Java"
  | cFamily => "C / C++"
  | generic => "C / Java style (generic)"
  | mixed => "C / Java style (mixed)"
  | pseudo => "Unknown / Pseudo"
  | unclassified => "Unknown / Generic C-like"

def all : List Label := [java, cFamily, generic, mixed, pseudo, unclassified]

/-- The dialect that the label implies. -/
def steered? : Label → Option Dialect
  | java => some .java
  | cFamily => some .c
  | generic => some .c
  | mixed => none
  | pseudo => none
  | unclassified => none

end Label

structure Guess where
  label : Label
  scoreC : Nat
  scoreJava : Nat
  deriving DecidableEq, Repr

/-- An idiom of a language, written in one of several ways. -/
structure Signal where
  weight : Nat
  phrases : List Phrase
  deriving Repr

namespace Signal

def firesIn (signal : Signal) (text : List Char) : Bool :=
  signal.phrases.any fun phrase => phrase.occursIn text

end Signal

def cSignals : List Signal := [
  ⟨3, [⟨false, [.exactly "#include".toList, .gap, .exactly "<".toList]⟩]⟩,
  ⟨2, [⟨true, [.exactly "scanf".toList, .gap, .exactly "(".toList]⟩]⟩,
  ⟨1, [⟨true, [.exactly "printf".toList, .gap, .exactly "(".toList]⟩]⟩,
  ⟨2, [⟨true, [.exactly "std::".toList]⟩]⟩,
  ⟨2, [⟨true, [.exactly "using".toList, .blanks, .exactly "namespace".toList, .blanks,
    .exactly "std".toList, .wordEnd]⟩]⟩]

def javaSignals : List Signal := [
  ⟨3, [⟨true, [.exactly "System.out.println".toList, .gap, .exactly "(".toList]⟩]⟩,
  ⟨3, [⟨true, [.exactly "public".toList, .blanks, .exactly "class".toList, .wordEnd]⟩]⟩,
  ⟨3, [⟨true, [.exactly "public".toList, .blanks, .exactly "static".toList, .blanks,
    .exactly "void".toList, .blanks, .exactly "main".toList, .wordEnd]⟩]⟩,
  ⟨2, [⟨true, [.exactly "import".toList, .blanks, .exactly "java.".toList]⟩,
    ⟨true, [.exactly "package".toList, .blanks, .dotted, .exactly ";".toList]⟩]⟩]

/-- The weights of the signals that fire, added up. -/
def score (signals : List Signal) (text : List Char) : Nat :=
  (signals.filter fun signal => signal.firesIn text).foldr (fun signal sum => signal.weight + sum) 0

/-- The label for two scores; `codeLike` says whether the text has a mark of code in it. -/
def labelFor (scoreC scoreJava : Nat) (codeLike : Bool) : Label :=
  if scoreC = 0 ∧ scoreJava = 0 then if codeLike then .generic else .pseudo
  else if scoreC < scoreJava then .java
  else if scoreJava < scoreC then .cFamily
  else .mixed

def classify (cleaned : List Char) : Guess :=
  let scoreC := score cSignals cleaned
  let scoreJava := score javaSignals cleaned
  ⟨labelFor scoreC scoreJava (cleaned.contains ';' || cleaned.contains '{'), scoreC, scoreJava⟩

/-- The example snippet of a dialect. -/
def Dialect.sample (dialect : Dialect) : String :=
  let (name, parameter) := match dialect with
    | c => ("sumOfPairs", "int arr[]")
    | java => ("sumPairs", "int[] arr")
  "int " ++ name ++ "(" ++ parameter ++ ", int n)\n" ++
  "\x7b\n" ++
  "  int total = 0;\n" ++
  "  for (int i = 0; i < n; i++)\n" ++
  "  \x7b\n" ++
  "    for (int j = 0; j < n; j++)\n" ++
  "    \x7b\n" ++
  "      total += arr[i] + arr[j];\n" ++
  "    \x7d\n" ++
  "  \x7d\n" ++
  "\n" ++
  "  if (n == 0) return 0;\n" ++
  "  return total + " ++ name ++ "(arr, n - 1);\n" ++
  "\x7d"

end CodeGrowth.Language
