import TypeHints.Config
import TypeHints.Json.Parser
import TypeHints.Text.Segments
import TypeHints.Text.Units

/-!
# Finding configuration files

A path is the list of its names from the root, without empty names and dots: `Path.resolve` reads
one from a text. The way up is made on texts: `Path.ancestors` goes from a text to that of its
directory until nothing changes any more, and `Path.findConfig` gives the first configuration file
on the way. In a `FileTree`, `FileTree.findConfig` does this from a path, and `FileTree.loadConfig`
reads the file at a `Location`, a path that may ask for a directory by a slash at its end.
-/

namespace TypeHints

/-- The names on the way from the root. -/
abbrev Path := List String

namespace Path

/-- One more name on the way: a dot stays, two dots go back, and nothing leads above the root. -/
def step (p : Path) (name : String) : Path :=
  if name = "" ∨ name = "." then p else if name = ".." then p.dropLast else p ++ [name]

/-- The path that a text leads to from another path. -/
def resolve (start : Path) (text : String) : Path :=
  (Text.splitAt '/' text).foldl step (if text.startsWith "/" then [] else start)

/-- The path that a text leads to from the working directory of another text. -/
def absolute (cwd text : String) : Path := resolve (resolve [] cwd) text

/-- The text of a path. -/
def text (p : Path) : String := "/" ++ Text.joinWith "/" p

/-- What stands in front of the last name of a text, back to front. Slashes behind that name do not
count. -/
def front (s : String) : List Char :=
  (s.toList.reverse.dropWhile (· = '/')).dropWhile (· ≠ '/')

/-- The text of the directory in which the last name of a text stands. Only at the start of a text
do two slashes differ from one. -/
def dirname (s : String) : String :=
  match front s with
  | [] => if s.startsWith "/" then "/" else "."
  | ['/'] => "/"
  | ['/', '/'] => "//"
  | _ :: before => String.ofList before.reverse

theorem isPrefix_reverse_front (s : String) : (front s).reverse <+: s.toList := by
  have hsuffix : front s <:+ s.toList.reverse :=
    (List.dropWhile_suffix _).trans (List.dropWhile_suffix _)
  rw [← List.reverse_suffix, List.reverse_reverse]
  exact hsuffix

theorem eq_or_shorter {s t : String} (h : t.toList <+: s.toList) :
    t = s ∨ t.length < s.length := by
  rcases Nat.eq_or_lt_of_le h.length_le with heq | hlt
  · exact .inl (String.toList_inj.mp (h.eq_of_length heq))
  · rw [String.length_toList, String.length_toList] at hlt
    exact .inr hlt

/-- Going up shortens a text, unless it ends there. -/
theorem dirname_cases (s : String) :
    dirname s = "." ∨ dirname s = s ∨ (dirname s).length < s.length := by
  have hfront := isPrefix_reverse_front s
  unfold dirname
  split
  · split
    · next h => exact .inr (eq_or_shorter (String.startsWith_string_iff.mp h))
    · exact .inl rfl
  · next h => exact .inr (eq_or_shorter (by rwa [h] at hfront))
  · next h => exact .inr (eq_or_shorter (by rwa [h] at hfront))
  · next h =>
    have hle := hfront.length_le
    rw [h, List.length_reverse, List.length_cons, String.length_toList] at hle
    refine .inr (.inr ?_)
    rw [String.length_ofList, List.length_reverse]
    exact hle

/-- A bound for the steps up from a text. -/
def height (s : String) : Nat := if s = "." then 0 else s.length + 1

theorem height_dirname {s : String} (h : dirname s ≠ s) : height (dirname s) < height s := by
  have hdot : s ≠ "." := by
    rintro rfl
    exact h (by decide +kernel)
  rw [height, height, if_neg hdot]
  rcases dirname_cases s with hend | hsame | hshorter
  · rw [if_pos hend]
    exact Nat.succ_pos _
  · exact absurd hsame h
  · split <;> omega

/-- A directory and those above it, nearest first. The way up ends at a text that is its own
directory. -/
def ancestors (dir : String) : List String :=
  if dirname dir = dir then [dir] else dir :: ancestors (dirname dir)
termination_by height dir
decreasing_by exact height_dirname ‹_›

/-- The text of the path to a name in an absolute directory. -/
def join (dir name : String) : String := (resolve [] (dir ++ "/" ++ name)).text

/-- The nearest configuration file in or above the directory that a text leads to from a working
directory. What exists is told by `isThere`. -/
def findConfig (isThere : String → Bool) (cwd text : String) : Option String :=
  ((ancestors (absolute cwd text).text).map fun dir => join dir configFileName).find? isThere

end Path

/-- A path as it is written: a slash at the end asks for a directory. -/
structure Location where
  path : Path
  asDirectory : Bool
deriving DecidableEq, Repr

namespace Location

/-- The location that a text leads to from a path. -/
def resolve (start : Path) (text : String) : Location :=
  ⟨Path.resolve start text, text.endsWith "/"⟩

/-- The text of a location. -/
def text (l : Location) : String := l.path.text ++ if l.asDirectory then "/" else ""

end Location

/-- The files and directories of a tree. What lies above them exists too. -/
structure FileTree where
  files : Dict Path String
  dirs : List Path

namespace FileTree

/-- The tree of some files and directories. A file keeps whole characters only. -/
def ofTexts (files : List (Path × String)) (dirs : List Path) : FileTree :=
  ⟨Dict.ofList (files.map fun f => (f.1, Text.whole f.2)), dirs⟩

/-- Whether something exists at a path. -/
def contains (t : FileTree) (p : Path) : Bool :=
  (t.files.keys ++ t.dirs).any fun q => p.isPrefixOf q

/-- The nearest configuration file beside or above a path. -/
def findConfig (t : FileTree) (start : Path) : Option Path :=
  (Path.findConfig (fun text => t.contains (.resolve [] text)) "/" start.text).map (.resolve [])

/-- Whether something exists at a location. A file is no directory. -/
def holds (t : FileTree) (l : Location) : Bool :=
  t.contains l.path && !(l.asDirectory && t.files.contains l.path)

/-- Read the configuration file at a location, which messages call `shown`. A parse failure is
reported with `detail`. -/
def loadConfig (t : FileTree) (l : Location) (shown detail : String) :
    Except ConfigFault ConfigFile :=
  if !t.holds l then .error (.missing shown)
  else
    match (t.files.get? l.path).bind Json.parse? with
    | some v => ConfigFile.ofJson? v
    | none => .error (.unreadable detail)

end FileTree

end TypeHints
