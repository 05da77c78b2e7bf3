import Mathlib.Data.List.Find
import Mathlib.Data.List.Infix
import TypeHints.Config.Search

/-!
# The nearest configuration file

The search for the configuration file takes a text, makes a path of it and goes up from there. It
works on texts all the time: a step up cuts a text at its last slash, and the search stops where a
step changes nothing. What it does is said here in terms of paths, which are lists of names.

* Whatever dots and repeated slashes a text has, it leads to a path of proper names
  (`isNormal_resolve`), and such a path is read back from its own text (`resolve_text`).
* On the text of a path of proper names, a step up drops the last name (`dirname_text`). At the root
  there is no last name, and the text of the root is its own directory.
* So the way up goes through the fronts of the path, longest first, and it ends at the root
  (`ancestors_text`, `iterate_dirname_text`). It takes one step for each name, and none in vain
  (`ancestors_eq_iterate`, `iterate_dirname_fixed_iff`).

The file that is found on the way is therefore that of the nearest directory which has one
(`findConfig_nearest`). `IsNearest` says this without a search: the directory is the path itself or
lies above it, it has the file, and no directory between it and the path has one.

Which files are there is left open: nothing is assumed of them, not even that the directories in
which they lie are there too.
-/

namespace TypeHints

namespace Path

/-! ### Paths of proper names -/

/-- A name that a file or a directory may have. -/
def IsName (n : String) : Prop := n ≠ "" ∧ n ≠ "." ∧ n ≠ ".." ∧ '/' ∉ n.toList

instance : DecidablePred IsName := fun _ ↦ inferInstanceAs (Decidable (_ ∧ _))

/-- A path with nothing to resolve in it. -/
def IsNormal (p : Path) : Prop := ∀ n ∈ p, IsName n

instance : DecidablePred IsNormal := fun p ↦ inferInstanceAs (Decidable (∀ n ∈ p, IsName n))

/-- The name of the configuration file is a proper one. -/
theorem isName_configFileName : IsName configFileName := by decide +kernel

variable {p q : Path} {n : String}

theorem isNormal_nil : IsNormal [] := fun _ h ↦ absurd h List.not_mem_nil

theorem IsNormal.of_isPrefix (hp : p.IsNormal) (h : q <+: p) : q.IsNormal :=
  fun n hn ↦ hp n (h.subset hn)

/-- A path is proper if its last name and the path in front of it are. -/
theorem isNormal_concat : IsNormal (p ++ [n]) ↔ p.IsNormal ∧ IsName n := by
  simp only [IsNormal, List.forall_mem_append, List.forall_mem_singleton]

/-- A proper name is put behind the path. -/
theorem step_of_isName (hn : IsName n) : step p n = p ++ [n] := by
  obtain ⟨hempty, hdot, hdots, -⟩ := hn
  rw [step, if_neg (not_or.mpr ⟨hempty, hdot⟩), if_neg hdots]

/-- Proper names are all put behind the path. -/
theorem foldl_step_of_isNormal (hq : q.IsNormal) : q.foldl step p = p ++ q := by
  induction q generalizing p with
  | nil => exact (List.append_nil p).symm
  | cons n q ih =>
    obtain ⟨hn, hq⟩ := List.forall_mem_cons.mp hq
    rw [List.foldl_cons, step_of_isName hn, ih hq, List.append_assoc, List.singleton_append]

/-- A step to any name without a slash leads from a proper path to a proper one. -/
theorem isNormal_step (hp : p.IsNormal) (hslash : '/' ∉ n.toList) : (step p n).IsNormal := by
  rw [step]
  split
  · exact hp
  · next h =>
    split
    · exact hp.of_isPrefix (List.dropLast_prefix p)
    · next hdots =>
      obtain ⟨hempty, hdot⟩ := not_or.mp h
      exact isNormal_concat.mpr ⟨hp, hempty, hdot, hdots, hslash⟩

/-- So do any number of steps. -/
theorem isNormal_foldl_step {names : List String} (hp : p.IsNormal)
    (hnames : ∀ n ∈ names, '/' ∉ n.toList) : IsNormal (names.foldl step p) := by
  induction names generalizing p with
  | nil => exact hp
  | cons n names ih =>
    obtain ⟨hn, hnames⟩ := List.forall_mem_cons.mp hnames
    exact ih (isNormal_step hp hn) hnames

/-- A text leads from a proper path to a proper one. -/
theorem isNormal_resolve (hp : p.IsNormal) (text : String) : (resolve p text).IsNormal := by
  refine isNormal_foldl_step ?_ fun n hn ↦ Text.notMem_of_mem_splitAt hn
  split
  · exact isNormal_nil
  · exact hp

/-- Every text leads to a proper path. -/
theorem isNormal_absolute (cwd text : String) : (absolute cwd text).IsNormal :=
  isNormal_resolve (isNormal_resolve isNormal_nil cwd) text

/-! ### The texts of paths -/

theorem resolve_root (text : String) : resolve [] text = (Text.splitAt '/' text).foldl step [] := by
  rw [resolve, ite_self]

/-- A path is read back from its text. -/
theorem resolve_text (hp : p.IsNormal) : resolve [] p.text = p := by
  have hcut : Text.splitAt '/' p.text =
      Text.splitAt '/' "" ++ Text.splitAt '/' (Text.joinWith "/" p) :=
    Text.splitAt_append_sep '/' "" (Text.joinWith "/" p)
  have hfirst : (Text.splitAt '/' "").foldl step [] = [] := rfl
  rw [resolve_root, hcut, List.foldl_append, hfirst]
  by_cases hne : p = []
  · subst hne
    exact hfirst
  · have hnames : Text.splitAt '/' (Text.joinWith "/" p) = p :=
      Text.splitAt_joinWith hne fun n hn ↦ (hp n hn).2.2.2
    rw [hnames, foldl_step_of_isNormal hp, List.nil_append]

/-- Proper paths are told apart by their texts. -/
theorem text_inj (hp : p.IsNormal) (hq : q.IsNormal) : p.text = q.text ↔ p = q := by
  refine ⟨fun h ↦ ?_, congrArg text⟩
  rw [← resolve_text hp, h, resolve_text hq]

theorem text_concat (hp : p ≠ []) : text (p ++ [n]) = p.text ++ "/" ++ n := by
  rw [text, text, Text.joinWith_append hp (List.cons_ne_nil n []), Text.joinWith_singleton]
  simp only [String.append_assoc]

/-- To join the text of a path and a name is to put the name behind the path. -/
theorem join_text (hp : p.IsNormal) (hn : IsName n) : join p.text n = text (p ++ [n]) := by
  have hcut : Text.splitAt '/' (p.text ++ "/" ++ n) =
      Text.splitAt '/' p.text ++ Text.splitAt '/' n :=
    Text.splitAt_append_sep '/' p.text n
  have hlast : Text.splitAt '/' n = [n] := Text.splitAt_of_notMem hn.2.2.2
  rw [join, resolve_root, hcut, hlast, List.foldl_append, ← resolve_root, resolve_text hp,
    List.foldl_cons, List.foldl_nil, step_of_isName hn]

/-! ### The way up -/

/-- What is left in front of the last slash. -/
theorem front_append (hn : IsName n) (s : String) :
    front (s ++ "/" ++ n) = '/' :: s.toList.reverse := by
  obtain ⟨hempty, -, -, hslash⟩ := hn
  have hchars : (s ++ "/" ++ n).toList.reverse = n.toList.reverse ++ '/' :: s.toList.reverse := by
    simp
  have hkept : (n.toList.reverse ++ '/' :: s.toList.reverse).dropWhile (· = '/') =
      n.toList.reverse ++ '/' :: s.toList.reverse := by
    cases hrev : n.toList.reverse with
    | nil => exact absurd (String.toList_eq_nil_iff.mp (List.reverse_eq_nil_iff.mp hrev)) hempty
    | cons c cs =>
      have hmem : c ∈ n.toList := List.mem_reverse.mp (hrev ▸ List.mem_cons_self)
      have hc : c ≠ '/' := fun heq ↦ hslash (heq ▸ hmem)
      simp [hc]
  have hdropped : ∀ c ∈ n.toList.reverse, decide (c ≠ '/') = true := fun c hc ↦
    decide_eq_true fun heq ↦ hslash (heq ▸ List.mem_reverse.mp hc)
  rw [front, hchars, hkept, List.dropWhile_append_of_pos hdropped]
  simp

/-- Above a path with a name behind it lies the path. -/
theorem dirname_concat (hp : p.IsNormal) (hn : IsName n) : dirname (text (p ++ [n])) = p.text := by
  by_cases hne : p = []
  · subst hne
    have hfront : front (text [n]) = ['/'] := front_append hn ""
    rw [List.nil_append, dirname, hfront]
    rfl
  · have hfront := front_append hn p.text
    rw [← text_concat hne] at hfront
    -- neither the root nor an empty text stands in front of the last name
    have hroot : p.text ≠ "/" := fun h ↦ hne ((text_inj hp isNormal_nil).mp h)
    have hempty : p.text ≠ "" := fun h ↦ by simpa [text] using congrArg String.toList h
    unfold dirname
    split
    · next h => simp [hfront] at h
    · next h => simp [hfront, hempty] at h
    · next h =>
      rw [hfront] at h
      have hslash : p.text.toList = ['/'] := by simpa using h
      exact absurd (String.toList_inj.mp hslash) hroot
    · next h =>
      rw [hfront] at h
      rw [← (List.cons.inj h).2, List.reverse_reverse, String.ofList_toList]

/-- A step up drops the last name, and the root is above itself. -/
theorem dirname_text (hp : p.IsNormal) : dirname p.text = text p.dropLast := by
  rcases List.eq_nil_or_concat p with rfl | ⟨q, n, rfl⟩
  · decide +kernel
  · rw [List.concat_eq_append] at hp ⊢
    obtain ⟨hq, hn⟩ := isNormal_concat.mp hp
    rw [dirname_concat hq hn, List.dropLast_concat]

/-- Steps up drop the last names. -/
theorem iterate_dirname_text (hp : p.IsNormal) (k : Nat) :
    dirname^[k] p.text = text (p.take (p.length - k)) := by
  induction k with
  | zero => rw [Function.iterate_zero_apply, Nat.sub_zero, List.take_length]
  | succ k ih =>
    have hfront : IsNormal (p.take (p.length - k)) := hp.of_isPrefix (List.take_prefix _ p)
    rw [Function.iterate_succ_apply', ih, dirname_text hfront, List.dropLast_eq_take,
      List.take_take, List.length_take]
    congr 2
    omega

/-- The way up stands still from the root on, and not before. -/
theorem iterate_dirname_fixed_iff (hp : p.IsNormal) (k : Nat) :
    dirname (dirname^[k] p.text) = dirname^[k] p.text ↔ p.length ≤ k := by
  have hfront (m : Nat) : IsNormal (p.take m) := hp.of_isPrefix (List.take_prefix m p)
  rw [← Function.iterate_succ_apply' dirname, iterate_dirname_text hp, iterate_dirname_text hp,
    text_inj (hfront _) (hfront _)]
  constructor
  · intro h
    have hlength := congrArg List.length h
    rw [List.length_take, List.length_take] at hlength
    omega
  · intro hle
    rw [Nat.sub_eq_zero_of_le hle, Nat.sub_eq_zero_of_le (Nat.le_succ_of_le hle)]

theorem ancestors_root : ancestors (text []) = [text []] := by
  have hstays : dirname (text []) = text [] := dirname_text isNormal_nil
  rw [ancestors, if_pos hstays]

/-- The way up from a path with a name behind it goes on as that from the path. -/
theorem ancestors_concat (hp : p.IsNormal) (hn : IsName n) :
    ancestors (text (p ++ [n])) = text (p ++ [n]) :: ancestors p.text := by
  have hmoves : p.text ≠ text (p ++ [n]) := fun h ↦ by
    have heq := (text_inj hp (isNormal_concat.mpr ⟨hp, hn⟩)).mp h
    simpa using congrArg List.length heq
  rw [ancestors, dirname_concat hp hn, if_neg hmoves]

theorem reverse_inits_concat : (p ++ [n]).inits.reverse = (p ++ [n]) :: p.inits.reverse := by
  simp [List.inits_append]

/-- The way up goes through the fronts of a path, longest first. -/
theorem ancestors_text (hp : p.IsNormal) : ancestors p.text = p.inits.reverse.map text := by
  induction p using List.reverseRecOn with
  | nil => exact ancestors_root
  | append_singleton q n ih =>
    obtain ⟨hq, hn⟩ := isNormal_concat.mp hp
    rw [ancestors_concat hq hn, ih hq, reverse_inits_concat, List.map_cons]

/-- The way up takes one step for each name. -/
theorem ancestors_eq_iterate (hp : p.IsNormal) :
    ancestors p.text = List.iterate dirname p.text (p.length + 1) := by
  induction p using List.reverseRecOn with
  | nil => exact ancestors_root
  | append_singleton q n ih =>
    obtain ⟨hq, hn⟩ := isNormal_concat.mp hp
    have hstep (k : Nat) : List.iterate dirname (text (q ++ [n])) (k + 1) =
        text (q ++ [n]) :: List.iterate dirname (dirname (text (q ++ [n]))) k := rfl
    rw [ancestors_concat hq hn, ih hq, List.length_append, List.length_singleton, hstep,
      dirname_concat hq hn]

/-! ### The nearest directory -/

/-- A directory is the nearest of those that have something: it is the one where the way up starts,
or lies above it, and none that comes before it on the way has anything. -/
structure IsNearest (has : Path → Bool) (start d : Path) : Prop where
  above : d <+: start
  holds : has d
  first : ∀ e, d <+: e → e <+: start → e ≠ d → has e = false

/-- At the root there is only the root. -/
theorem isNearest_nil {has : Path → Bool} {d : Path} :
    IsNearest has [] d ↔ has [] ∧ d = [] := by
  constructor
  · rintro ⟨habove, hholds, -⟩
    obtain rfl := List.prefix_nil.mp habove
    exact ⟨hholds, rfl⟩
  · rintro ⟨hholds, rfl⟩
    exact ⟨List.prefix_rfl, hholds, fun e _ he hne ↦ absurd (List.prefix_nil.mp he) hne⟩

/-- The way up starts at a directory and goes on above it. -/
theorem isNearest_concat {has : Path → Bool} {d : Path} :
    IsNearest has (p ++ [n]) d ↔
      has (p ++ [n]) ∧ d = p ++ [n] ∨ has (p ++ [n]) = false ∧ IsNearest has p d := by
  constructor
  · rintro ⟨habove, hholds, hfirst⟩
    rcases List.prefix_concat_iff.mp habove with rfl | habove
    · exact .inl ⟨hholds, rfl⟩
    · have hne : p ++ [n] ≠ d := fun heq ↦ by
        have hle := habove.length_le
        rw [← heq, List.length_append, List.length_singleton] at hle
        omega
      refine .inr ⟨hfirst _ (habove.trans (List.prefix_append p [n])) List.prefix_rfl hne, habove,
        hholds, fun e hde hep ↦ hfirst e hde (hep.trans (List.prefix_append p [n]))⟩
  · rintro (⟨hholds, rfl⟩ | ⟨hlacks, habove, hholds, hfirst⟩)
    · exact ⟨List.prefix_rfl, hholds, fun e hde hep hne ↦
        absurd (hep.eq_of_length_le hde.length_le) hne⟩
    · refine ⟨habove.trans (List.prefix_append p [n]), hholds, fun e hde hep hne ↦ ?_⟩
      rcases List.prefix_concat_iff.mp hep with rfl | hep
      · exact hlacks
      · exact hfirst e hde hep hne

/-- The first directory on the way up that has something is the nearest one. -/
theorem find?_inits_eq_some_iff {has : Path → Bool} {d : Path} :
    p.inits.reverse.find? has = some d ↔ IsNearest has p d := by
  induction p using List.reverseRecOn with
  | nil =>
    have hway : (List.inits ([] : Path)).reverse = [[]] := rfl
    rw [isNearest_nil, hway, List.find?_singleton]
    cases has [] <;> simp [eq_comm]
  | append_singleton q n ih =>
    rw [isNearest_concat, ← ih, reverse_inits_concat, List.find?_cons]
    cases has (q ++ [n]) <;> simp [eq_comm]

/-- Nothing is found on the way up just if no directory on it has anything. -/
theorem find?_inits_eq_none_iff {has : Path → Bool} :
    p.inits.reverse.find? has = none ↔ ∀ d, d <+: p → has d = false := by
  simp only [List.find?_eq_none, List.mem_reverse, List.mem_inits, Bool.not_eq_true]

/-- The text of the path to the configuration file in a directory. -/
def configFile (d : Path) : String := text (d ++ [configFileName])

/-- The search tries the directories above a path, longest first. -/
theorem findConfig_eq (isThere : String → Bool) (cwd text : String) :
    findConfig isThere cwd text =
      ((absolute cwd text).inits.reverse.find? fun d ↦ isThere (configFile d)).map configFile := by
  have hstart := isNormal_absolute cwd text
  have hfiles : (ancestors (absolute cwd text).text).map (join · configFileName) =
      (absolute cwd text).inits.reverse.map configFile := by
    rw [ancestors_text hstart, List.map_map]
    refine List.map_congr_left fun d hd ↦ ?_
    have habove := (List.mem_inits _ _).mp (List.mem_reverse.mp hd)
    exact join_text (hstart.of_isPrefix habove) isName_configFileName
  rw [findConfig, hfiles, List.find?_map]
  rfl

/-- From whatever text in whatever working directory, the way up ends: it goes on by a step for each
name of the path that the text leads to, and stands still at the root, not earlier. What is found is
the configuration file of the nearest directory that has one, be it the path itself or above it, and
nothing just if neither the path nor any directory above it has one. -/
theorem findConfig_nearest (isThere : String → Bool) (cwd text : String) :
    let start := absolute cwd text
    let has := fun d : Path ↦ isThere d.configFile
    start.IsNormal ∧
    ancestors start.text = List.iterate dirname start.text (start.length + 1) ∧
    (∀ k, dirname (dirname^[k] start.text) = dirname^[k] start.text ↔ start.length ≤ k) ∧
    dirname^[start.length] start.text = "/" ∧
    (∀ file, findConfig isThere cwd text = some file ↔
      ∃ d, IsNearest has start d ∧ file = d.configFile) ∧
    (findConfig isThere cwd text = none ↔ ∀ d, d <+: start → has d = false) := by
  intro start has
  have hstart : start.IsNormal := isNormal_absolute cwd text
  refine ⟨hstart, ancestors_eq_iterate hstart, iterate_dirname_fixed_iff hstart, ?_,
    fun file ↦ ?_, ?_⟩
  · rw [iterate_dirname_text hstart, Nat.sub_self, List.take_zero]
    rfl
  · rw [findConfig_eq, Option.map_eq_some_iff]
    constructor
    · rintro ⟨d, hd, rfl⟩
      exact ⟨d, find?_inits_eq_some_iff.mp hd, rfl⟩
    · rintro ⟨d, hd, rfl⟩
      exact ⟨d, find?_inits_eq_some_iff.mpr hd, rfl⟩
  · rw [findConfig_eq, Option.map_eq_none_iff]
    exact find?_inits_eq_none_iff

/-- Two configuration files, one of them in a directory below that of the other one. -/
def twoFiles (file : String) : Bool :=
  ["/srv/hintwarden.json", "/srv/app/hintwarden.json"].contains file

/-- Both files lie above the directory that the text leads to, and the nearer one is found. -/
theorem findConfig_nearest_of_two :
    findConfig twoFiles "/srv/app" "src//models/./../lint/" = some "/srv/app/hintwarden.json" ∧
      ∃ d, IsNearest (fun d ↦ twoFiles d.configFile) ["srv", "app", "src", "lint"] d ∧
        "/srv/app/hintwarden.json" = d.configFile := by
  have hstart : absolute "/srv/app" "src//models/./../lint/" = ["srv", "app", "src", "lint"] := by
    decide +kernel
  have hfound : findConfig twoFiles "/srv/app" "src//models/./../lint/" =
      some "/srv/app/hintwarden.json" := by decide +kernel
  obtain ⟨-, -, -, -, hfile, -⟩ :=
    findConfig_nearest twoFiles "/srv/app" "src//models/./../lint/"
  have hnearest := (hfile _).mp hfound
  rw [hstart] at hnearest
  exact ⟨hfound, hnearest⟩

end Path

end TypeHints
