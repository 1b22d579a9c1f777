/-
  OvenRuntime.Common.PosixPath
  ────────────────────────────
  `PurePosixPath`: a path is a number of leading slashes and the names between
  the others.  The text of a path is parsed back to the path.
-/
import OvenRuntime.Common.Errors

namespace OvenRuntime

/-- `"/"`. -/
def SLASH : CodePoint := 47

/-- A name between slashes that a path keeps. -/
def PathName (name : PyStr) : Prop := name ≠ [] ∧ name ≠ py "." ∧ SLASH ∉ name

instance (name : PyStr) : Decidable (PathName name) :=
  inferInstanceAs (Decidable (name ≠ [] ∧ name ≠ py "." ∧ SLASH ∉ name))

structure PurePosixPath where
  /-- How many slashes the root has. -/
  root : Fin 3
  names : List PyStr
  named : ∀ name ∈ names, PathName name

namespace PurePosixPath

/-- The root of a text: two slashes are kept, more of them count as one. -/
def splitroot (text : PyStr) : Fin 3 :=
  if (py "///").isPrefixOf text then 1
  else if (py "//").isPrefixOf text then 2
  else if (py "/").isPrefixOf text then 1
  else 0

/-- `PurePosixPath(text)`. -/
def parse (text : PyStr) : PurePosixPath where
  root := splitroot text
  names := (text.splitOn SLASH).filter fun name => PathName name
  named _ h := of_decide_eq_true (List.mem_filter.mp h).2

/-- The slashes in front. -/
def rootText (path : PurePosixPath) : PyStr := List.replicate path.root.val SLASH

/-- `path.parts`. -/
def parts (path : PurePosixPath) : List PyStr :=
  if path.root = 0 then path.names else path.rootText :: path.names

/-- `path.is_absolute()`. -/
def is_absolute (path : PurePosixPath) : Bool := path.root != 0

/-- `str(path)`. -/
def str (path : PurePosixPath) : PyStr :=
  if path.root = 0 ∧ path.names = [] then py "."
  else path.rootText ++ [SLASH].intercalate path.names

/-- `path.expanduser()`; `home` expands a first name that starts with a tilde. -/
def expanduser (home : PyStr → PyStr) (path : PurePosixPath) :
    Except PyError PurePosixPath :=
  if path.root ≠ 0 then .ok path
  else
    match hnames : path.names with
    | [] => .ok path
    | first :: rest =>
        if !(py "~").isPrefixOf first then .ok path
        else if (py "~").isPrefixOf (home first) then .error .RuntimeError
        else .ok
          { root := (parse (home first)).root
            names := (parse (home first)).names ++ rest
            named := fun name h => (List.mem_append.mp h).elim
              ((parse (home first)).named name)
              fun h => path.named name (hnames ▸ List.mem_cons_of_mem _ h) }

theorem ext_names {p q : PurePosixPath} (hroot : p.root = q.root) (hnames : p.names = q.names) :
    p = q := by
  cases p
  cases q
  cases hroot
  cases hnames
  rfl

/-- Names between slashes, read back. -/
theorem splitOn_names {names : List PyStr} (h : ∀ name ∈ names, PathName name) :
    (([SLASH].intercalate names).splitOn SLASH).filter (fun name => PathName name) = names := by
  cases names with
  | nil => rfl
  | cons name rest =>
      rw [List.splitOn_intercalate SLASH (fun n hn => (h n hn).2.2) (List.cons_ne_nil _ _)]
      exact List.filter_eq_self.mpr fun n hn => decide_eq_true (h n hn)

/-- A slash in front adds no name. -/
theorem filter_splitOn_slash (text : PyStr) :
    ((SLASH :: text).splitOn SLASH).filter (fun name => PathName name)
      = (text.splitOn SLASH).filter fun name => PathName name := by
  rw [List.splitOn_cons_eq_if_modifyHead, if_pos (beq_self_eq_true _), List.filter_cons_of_neg]
  exact fun h => absurd (of_decide_eq_true h).1 (not_not.mpr rfl)

/-- Behind the root there is no slash. -/
theorem head_names {names : List PyStr} (h : ∀ name ∈ names, PathName name) :
    ∀ c ∈ ([SLASH].intercalate names).head?, c ≠ SLASH := by
  intro c hc
  cases names with
  | nil => cases hc
  | cons name rest =>
      obtain ⟨hne, -, hslash⟩ := h name (List.mem_cons_self ..)
      cases name with
      | nil => exact absurd rfl hne
      | cons d name =>
          have hhead : ([SLASH].intercalate ((d :: name) :: rest)).head? = some d := by
            cases rest with
            | nil => rfl
            | cons => rfl
          rw [hhead, Option.mem_some_iff] at hc
          rw [← hc]
          exact fun heq => hslash (heq ▸ List.mem_cons_self ..)

/-- The slashes of the root are counted. -/
theorem splitroot_slashes (root : Fin 3) {text : PyStr} (h : ∀ c ∈ text.head?, c ≠ SLASH) :
    splitroot (List.replicate root.val SLASH ++ text) = root := by
  have h1 : py "/" = [SLASH] := by decide
  have h2 : py "//" = [SLASH, SLASH] := by decide
  have h3 : py "///" = [SLASH, SLASH, SLASH] := by decide
  cases text with
  | nil =>
      unfold splitroot
      rw [h1, h2, h3]
      revert root
      decide
  | cons c text =>
      have hc : (SLASH == c) = false := beq_false_of_ne (Ne.symm (h c rfl))
      unfold splitroot
      rw [h1, h2, h3]
      match root with
      | 0 => simp [List.isPrefixOf, hc]
      | 1 => simp [List.isPrefixOf, hc]
      | 2 => simp [List.isPrefixOf, hc]

/-- **The text of a path is parsed back to the path.** -/
theorem parse_str (path : PurePosixPath) : parse path.str = path := by
  obtain ⟨root, names, named⟩ := path
  have hhead := head_names named
  unfold str rootText
  by_cases hempty : root = 0 ∧ names = []
  · rw [if_pos hempty]
    obtain ⟨rfl, rfl⟩ := hempty
    exact ext_names rfl rfl
  · rw [if_neg hempty]
    have hnames : ∀ text : PyStr,
        ((List.replicate root.val SLASH ++ text).splitOn SLASH).filter (fun name => PathName name)
          = (text.splitOn SLASH).filter fun name => PathName name := by
      intro text
      induction root.val with
      | zero => rfl
      | succ n ih => rw [List.replicate_succ, List.cons_append, filter_splitOn_slash, ih]
    exact ext_names (splitroot_slashes root hhead) ((hnames _).trans (splitOn_names named))

end PurePosixPath

end OvenRuntime
