import Mathlib.Data.List.Nodup
import CallAtlas.Files.Path

/-!
# Steps of a path

A name in a directory is one step more than the directory (`Path.components_join`), so the place
that names lead to from a path has their steps after those of the path (`Path.components_descend`).
Names with distinct stems are distinct paths in a directory (`Path.stem_eq_of_components_join`).
-/

namespace CallAtlas

namespace Text

variable {sep : Char}

theorem splitOn_append_cons (a b : List Char) :
    splitOn sep (a ++ sep :: b) = splitOn sep a ++ splitOn sep b := by
  induction a with
  | nil => simp [splitOn]
  | cons c a ih =>
    rw [List.cons_append, splitOn, splitOn, ih]
    split
    · rfl
    · cases ha : splitOn sep a with
      | nil => exact absurd ha (splitOn_ne_nil sep a)
      | cons part parts => rfl

/-- What has no separators goes to the first part. -/
theorem splitOn_append_of_notMem {a b part : List Char} {parts : List (List Char)} (ha : sep ∉ a)
    (hb : splitOn sep b = part :: parts) : splitOn sep (a ++ b) = (a ++ part) :: parts := by
  induction a with
  | nil => exact hb
  | cons c a ih =>
    rw [List.mem_cons, not_or] at ha
    rw [List.cons_append, splitOn, if_neg (Ne.symm ha.1), ih ha.2]
    rfl

end Text

namespace Path

/-- A part that says where to go. -/
def IsStep (s : String) : Prop :=
  s ≠ "" ∧ s ≠ "."

theorem isStep_stem {stem : String} (part : String) (h : stem ≠ "") :
    IsStep (stem ++ "." ++ part) := by
  have hlength : 1 < (stem ++ "." ++ part).length := by
    have hstem : stem.length ≠ 0 := by simpa using h
    have hdot : ".".length = 1 := rfl
    simp only [String.length_append]
    omega
  constructor
  · intro hempty
    exact absurd hlength (by rw [hempty]; decide)
  · intro hdot
    exact absurd hlength (by rw [hdot]; decide)

/-- What the first part says about the start of a path. -/
def start (parts : List String) : List Component :=
  if parts.head? = some "" ∧ 1 < parts.length then [.root]
  else if parts.head? = some "." then [.current]
  else []

theorem components_eq (path : String) :
    components path = start (parts path) ++ (parts path).filterMap component? := by
  rw [components]
  split
  · rename_i h
    simp [start, h]
  · rename_i h
    simp [start, h]
  · rename_i hroot hcurrent
    have hstart : start (parts path) = [] := by
      rw [start, if_neg, if_neg]
      · intro h
        obtain ⟨rest, hrest⟩ := List.head?_eq_some_iff.mp h
        exact hcurrent rest hrest
      · rintro ⟨h, hlength⟩
        obtain ⟨rest, hrest⟩ := List.head?_eq_some_iff.mp h
        cases rest with
        | nil => simp [hrest] at hlength
        | cons part rest => exact hroot part rest hrest
    rw [hstart, List.nil_append]

theorem component?_of_isStep {s : String} (h : IsStep s) :
    ∃ c, component? s = some c ∧ c.text = s := by
  rw [component?, if_neg (by simp [h.1, h.2])]
  split
  · rename_i hs
    exact ⟨.parent, rfl, hs.symm⟩
  · exact ⟨.name s, rfl, rfl⟩

/-- Which step is taken where does not matter to the start. -/
theorem start_append_cons {s t : String} (hs : IsStep s) (ht : IsStep t)
    (before after : List String) :
    start (before ++ s :: after) = start (before ++ t :: after) := by
  cases before with
  | nil => simp [start, hs.1, hs.2, ht.1, ht.2]
  | cons part before => simp [start]

/-- Paths that differ in one step are different. -/
theorem eq_of_components_eq {s t path path' : String} (hs : IsStep s) (ht : IsStep t)
    {before after : List String} (hpath : parts path = before ++ s :: after)
    (hpath' : parts path' = before ++ t :: after) (h : components path = components path') :
    s = t := by
  obtain ⟨c, hc, hcs⟩ := component?_of_isStep hs
  obtain ⟨d, hd, hdt⟩ := component?_of_isStep ht
  rw [components_eq, components_eq, hpath, hpath', start_append_cons hs ht] at h
  have hcd : c = d := by simpa [hc, hd] using h
  rw [← hcs, hcd, hdt]

theorem parts_append (a b : String) : parts (a ++ "/" ++ b) = parts a ++ parts b := by
  have hlist : (a ++ "/" ++ b).toList = a.toList ++ '/' :: b.toList := by simp
  rw [parts, hlist, Text.splitOn_append_cons, List.map_append]
  rfl

/-- A path in a directory has one separator between the two, unless the directory is empty. -/
theorem join_cases (directory : String) :
    directory = "" ∨
      (∃ outer, directory = outer ++ "/" ∧ ∀ name, join directory name = outer ++ "/" ++ name) ∨
      directory ≠ "" ∧ ∀ name, join directory name = directory ++ "/" ++ name := by
  by_cases hempty : directory = ""
  · exact .inl hempty
  · by_cases hslash : directory.endsWith "/" = true
    · have hsuffix : "/".toList <:+ directory.toList := by
        rwa [String.endsWith_eq_endsWith_toSlice, String.Slice.endsWith_string_iff,
          String.copy_toSlice] at hslash
      obtain ⟨outer, houter⟩ := hsuffix
      have hdirectory : directory = String.ofList outer ++ "/" := by
        rw [← String.toList_inj, ← houter]
        simp
      refine .inr (.inl ⟨String.ofList outer, hdirectory, fun name => ?_⟩)
      rw [join, if_pos (by simp [hslash]), hdirectory]
    · refine .inr (.inr ⟨hempty, fun name => ?_⟩)
      rw [join, if_neg (by simp [hempty, hslash])]

/-- The parts of a path in a directory. -/
theorem parts_join (directory : String) :
    ∃ before, ∀ name, parts (join directory name) = before ++ parts name := by
  obtain rfl | ⟨outer, -, hjoin⟩ | ⟨-, hjoin⟩ := join_cases directory
  · exact ⟨[], fun name => by simp [join]⟩
  · exact ⟨parts outer, fun name => by rw [hjoin, parts_append]⟩
  · exact ⟨parts directory, fun name => by rw [hjoin, parts_append]⟩

/-- A name in a directory is one step more, and what its extension says after that. -/
theorem parts_join_stem (directory extension : String) :
    ∃ before part after, ∀ stem : String, '/' ∉ stem.toList →
      parts (join directory (stem ++ "." ++ extension)) =
        before ++ (stem ++ "." ++ part) :: after := by
  obtain ⟨before, hbefore⟩ := parts_join directory
  obtain ⟨part, after, hsplit⟩ :=
    List.exists_cons_of_ne_nil (Text.splitOn_ne_nil '/' extension.toList)
  refine ⟨before, String.ofList part, after.map String.ofList, fun stem hstem => ?_⟩
  have hdot : '/' ∉ stem.toList ++ ['.'] := by simpa using hstem
  have hlist : (stem ++ "." ++ extension).toList = stem.toList ++ ['.'] ++ extension.toList := by
    simp
  rw [hbefore, parts, hlist, Text.splitOn_append_of_notMem hdot hsplit, List.map_cons]
  simp [String.append_assoc]

/-- Names with distinct stems are distinct paths in a directory. -/
theorem stem_eq_of_components_join {directory extension s t : String} (hs : s ≠ "") (ht : t ≠ "")
    (hs' : '/' ∉ s.toList) (ht' : '/' ∉ t.toList)
    (h : components (join directory (s ++ "." ++ extension)) =
      components (join directory (t ++ "." ++ extension))) : s = t := by
  obtain ⟨before, part, after, hparts⟩ := parts_join_stem directory extension
  have heq := eq_of_components_eq (isStep_stem part hs) (isStep_stem part ht) (hparts s hs')
    (hparts t ht') h
  rwa [String.append_assoc, String.append_assoc, String.append_left_inj] at heq

/-! ## Names and places -/

/-- A name that an entry of a directory can have. -/
def IsName (s : String) : Prop :=
  IsStep s ∧ s ≠ ".." ∧ '/' ∉ s.toList

instance (s : String) : Decidable (IsName s) :=
  inferInstanceAs (Decidable ((s ≠ "" ∧ s ≠ ".") ∧ s ≠ ".." ∧ '/' ∉ s.toList))

theorem parts_ne_nil (path : String) : parts path ≠ [] := by
  simpa [parts] using Text.splitOn_ne_nil '/' path.toList

theorem parts_of_notMem {s : String} (h : '/' ∉ s.toList) : parts s = [s] := by
  have hsplit : Text.splitOn '/' (s.toList ++ []) = [s.toList ++ []] :=
    Text.splitOn_append_of_notMem h rfl
  rw [List.append_nil] at hsplit
  rw [parts, hsplit]
  simp

theorem parts_append_slash (path : String) : parts (path ++ "/") = parts path ++ [""] := by
  simpa [parts_of_notMem] using parts_append path ""

theorem parts_ne_empty {path : String} (h : path ≠ "") : parts path ≠ [""] := by
  intro hparts
  by_cases hslash : '/' ∈ path.toList
  · obtain ⟨before, after, hsplit⟩ := List.append_of_mem hslash
    have hpath : path = String.ofList before ++ "/" ++ String.ofList after := by
      rw [← String.toList_inj, hsplit]
      simp
    rw [hpath, parts_append] at hparts
    have hbefore := List.length_pos_of_ne_nil (parts_ne_nil (String.ofList before))
    have hafter := List.length_pos_of_ne_nil (parts_ne_nil (String.ofList after))
    have hlength := congrArg List.length hparts
    rw [List.length_append, List.length_singleton] at hlength
    omega
  · rw [parts_of_notMem hslash] at hparts
    exact h (List.singleton_inj.mp hparts)

@[simp] theorem component?_empty : component? "" = none := rfl

theorem component?_of_isName {s : String} (h : IsName s) : component? s = some (.name s) := by
  simp [component?, h.1.1, h.1.2, h.2.1]

/-- The start is said by the first of two parts and more. -/
theorem start_concat {before : List String} (h : before ≠ []) (s t : String) :
    start (before ++ [s]) = start (before ++ [t]) := by
  cases before with
  | nil => exact absurd rfl h
  | cons part before => simp [start]

theorem components_append_name {name : String} (h : IsName name) (outer : String) :
    components (outer ++ "/" ++ name) = components (outer ++ "/") ++ [.name name] := by
  rw [components_eq, components_eq, parts_append, parts_of_notMem h.2.2, parts_append_slash,
    start_concat (parts_ne_nil outer) name ""]
  simp [component?_of_isName h]

/-- A separator at the end says nothing. -/
theorem components_append_slash {path : String} (h : path ≠ "") :
    components (path ++ "/") = components path := by
  have hstart : start (parts path ++ [""]) = start (parts path) := by
    rcases hparts : parts path with _ | ⟨part, _ | ⟨next, rest⟩⟩
    · exact absurd hparts (parts_ne_nil path)
    · have hpart : part ≠ "" := fun hempty => parts_ne_empty h (hempty ▸ hparts)
      simp [start, hpart]
    · simp [start]
  rw [components_eq, components_eq, parts_append_slash, hstart]
  simp

/-- A name in a directory is one step more. -/
theorem components_join {directory name : String} (hdirectory : directory ≠ "") (h : IsName name) :
    components (join directory name) = components directory ++ [.name name] := by
  obtain hempty | ⟨outer, houter, hjoin⟩ | ⟨-, hjoin⟩ := join_cases directory
  · exact absurd hempty hdirectory
  · rw [hjoin, components_append_name h, houter]
  · rw [hjoin, components_append_name h, components_append_slash hdirectory]

theorem fileName?_join {directory name : String} (hdirectory : directory ≠ "") (h : IsName name) :
    fileName? (join directory name) = some name := by
  rw [fileName?, components_join hdirectory h]
  simp [lastName?]

theorem join_ne_empty {directory name : String} (hdirectory : directory ≠ "") :
    join directory name ≠ "" := by
  rw [join]
  split <;> simp [hdirectory]

/-- The path that names lead to. -/
def descend (path : String) (place : List String) : String :=
  place.foldl join path

/-- A path that ends with a name has no separator at its end. -/
theorem not_endsWith_join {name : String} (h : IsName name) (path : String) :
    (join path name).endsWith "/" = false := by
  rw [Bool.eq_false_iff, Ne, String.endsWith_eq_endsWith_toSlice, String.Slice.endsWith_string_iff,
    String.copy_toSlice]
  intro hslash
  have hjoin : ∃ front, (join path name).toList = front ++ name.toList := by
    rw [join]
    split
    · exact ⟨path.toList, String.toList_append⟩
    · exact ⟨(path ++ "/").toList, String.toList_append⟩
  obtain ⟨front, hfront⟩ := hjoin
  obtain ⟨before, hbefore⟩ := hslash
  have hname : name.toList ≠ [] := by simpa using h.1.1
  have hlast : name.toList.getLast hname = '/' := by
    have hends := congrArg List.getLast? (hbefore.trans hfront)
    rw [List.getLast?_append_of_ne_nil _ hname, List.getLast?_eq_getLast_of_ne_nil hname] at hends
    simpa using hends.symm
  exact h.2.2 (hlast ▸ List.getLast_mem hname)

/-- The path that names lead to is written with one separator before each of them. -/
theorem descend_eq {path : String} {place : List String} (hpath : path ≠ "") (hplace : place ≠ [])
    (h : ∀ name ∈ place, IsName name) : descend path place =
      path ++ (if path.endsWith "/" then "" else "/") ++ "/".intercalate place := by
  have hjoin : ∀ path name, path ≠ "" →
      join path name = path ++ (if path.endsWith "/" then "" else "/") ++ name := by
    intro path name hpath
    rw [join]
    by_cases hslash : path.endsWith "/" = true
    · simp [hslash]
    · simp [hslash, hpath]
  induction place generalizing path with
  | nil => exact absurd rfl hplace
  | cons name place ih =>
    obtain ⟨hname, hrest⟩ := List.forall_mem_cons.mp h
    have hcons : descend path (name :: place) = descend (join path name) place := rfl
    rw [hcons]
    cases place with
    | nil => simpa [descend] using hjoin path name hpath
    | cons next place =>
      rw [ih (join_ne_empty hpath) (by simp) hrest, not_endsWith_join hname, hjoin path name hpath,
        String.intercalate_cons_cons]
      simp [String.append_assoc]

theorem components_descend {path : String} {place : List String} (hpath : path ≠ "")
    (h : ∀ name ∈ place, IsName name) :
    components (descend path place) = components path ++ place.map .name := by
  induction place generalizing path with
  | nil => simp [descend]
  | cons name place ih =>
    rw [List.forall_mem_cons] at h
    have hrest := @ih (join path name) (join_ne_empty hpath) h.2
    rw [components_join hpath h.1, List.append_assoc] at hrest
    exact hrest

/-- A place below a directory, seen from the directory. -/
theorem relativeTo_append (directory rest : List Component) :
    relativeTo directory (directory ++ rest) = rest := by
  simp [relativeTo]

end Path

end CallAtlas
