import Mathlib.Tactic.Lemma
import Bindery.Proofs.Deliveries

/-!
# Paths that lead to one file

A file is written under a path that is put together from the directory of the run and the name of
the file.  Two names make one path only if they are the same or an absolute one is spelled like the
path of the other (`Path.join_eq_join_iff`).  Names without a slash that make different paths lead
to different places, too (`FileStore.eq_of_fileAt?_join`); with slashes they may not, as `a/./b`
shows.
-/

namespace Bindery

namespace Path

variable {directory file file' : String}

/-! ## Joining -/

/-- What stands in front of a file that is not absolute. -/
def lead (directory : String) : String :=
  if directory == "" then ""
  else if directory.toList.getLast? == some '/' then directory
  else directory ++ "/"

lemma join_of_absolute (h : isAbsolute file = true) : join directory file = file := by
  simp [join, h]

lemma join_of_relative (h : isAbsolute file = false) :
    join directory file = lead directory ++ file := by
  unfold join lead
  rw [h, Bool.false_or]
  split_ifs with hempty hslash
  · exact (String.empty_append).symm
  · rfl
  · rfl

/-- An absolute file is spelled like the path of another one. -/
def Shadows (directory file file' : String) : Prop :=
  isAbsolute file = true ∧ isAbsolute file' = false ∧ file = lead directory ++ file'

theorem join_eq_join_iff :
    join directory file = join directory file' ↔
      file = file' ∨ Shadows directory file file' ∨ Shadows directory file' file := by
  unfold Shadows
  cases h : isAbsolute file with
  | true =>
    cases h' : isAbsolute file' with
    | true => simp [join_of_absolute h, join_of_absolute h']
    | false =>
      have hne : file ≠ file' := fun heq => by simp [heq, h'] at h
      simp [join_of_absolute h, join_of_relative h', hne]
  | false =>
    cases h' : isAbsolute file' with
    | true =>
      have hne : file ≠ file' := fun heq => by simp [heq, h'] at h
      simp [join_of_relative h, join_of_absolute h', hne, eq_comm]
    | false => simp [join_of_relative h, join_of_relative h']

/-! ## Names without a slash -/

lemma isAbsolute_of_plain (h : '/' ∉ file.toList) : isAbsolute file = false := by
  unfold isAbsolute Text.startsWith
  cases hchars : file.toList with
  | nil => rfl
  | cons c cs =>
    have hslash : '/' ≠ c := fun heq => h (by rw [hchars, heq]; exact List.mem_cons_self)
    simp [List.isPrefixOf, hslash]

lemma lead_eq (directory : String) :
    lead directory = "" ∨ ∃ front, (lead directory).toList = front ++ ['/'] := by
  unfold lead
  split_ifs with hempty hslash
  · exact .inl rfl
  · refine .inr ⟨directory.toList.dropLast, ?_⟩
    exact (List.dropLast_append_getLast? '/' (by simpa using hslash)).symm
  · exact .inr ⟨directory.toList, by simp⟩

end Path

namespace Text

lemma piecesChars_of_not_mem {sep : Char} {cs : List Char} (h : sep ∉ cs) :
    piecesChars sep cs = [cs] := by
  induction cs with
  | nil => rfl
  | cons c cs ih =>
    rw [List.mem_cons, not_or] at h
    rw [piecesChars, if_neg (Ne.symm h.1), ih h.2]

lemma piecesChars_append_cons {sep : Char} (cs rest : List Char) :
    piecesChars sep (cs ++ sep :: rest) = piecesChars sep cs ++ piecesChars sep rest := by
  induction cs with
  | nil => simp [piecesChars]
  | cons c cs ih =>
    rw [List.cons_append, piecesChars, piecesChars, ih]
    split_ifs with heq
    · rfl
    · cases hpieces : piecesChars sep cs with
      | nil => exact absurd hpieces (piecesChars_ne_nil sep cs)
      | cons piece pieces => rfl

end Text

namespace Path

variable {directory file file' : String}

/-- The file of a path comes last, after the same components for every file. -/
lemma components_lead_append (directory : String) :
    ∃ front, ∀ file : String, '/' ∉ file.toList →
      components (lead directory ++ file) = front ++ [file] := by
  rcases lead_eq directory with hlead | ⟨front, hlead⟩
  · refine ⟨[], fun file hplain => ?_⟩
    rw [hlead, String.empty_append, components, Text.piecesChars_of_not_mem hplain]
    simp
  · refine ⟨(Text.piecesChars '/' front).map String.ofList, fun file hplain => ?_⟩
    rw [components, String.toList_append, hlead, List.append_assoc, List.cons_append,
      List.nil_append, Text.piecesChars_append_cons, Text.piecesChars_of_not_mem hplain]
    simp

lemma start_lead_append (directory : String) :
    ∃ here, ∀ file : String, '/' ∉ file.toList → Place.start (lead directory ++ file) = here := by
  rcases lead_eq directory with hlead | ⟨front, hlead⟩
  · refine ⟨{ origin := .above 0, names := [] }, fun file hplain => ?_⟩
    rw [hlead, String.empty_append, Place.start, isAbsolute_of_plain hplain]
    rfl
  · refine ⟨Place.start (lead directory), fun file _ => ?_⟩
    have habsolute : isAbsolute (lead directory ++ file) = isAbsolute (lead directory) := by
      unfold isAbsolute Text.startsWith
      rw [String.toList_append, hlead]
      cases front <;> simp [List.isPrefixOf]
    rw [Place.start, Place.start, habsolute]

end Path

/-- Files without a slash in their names are written to different places of a directory. -/
theorem FileStore.eq_of_fileAt?_join {s : FileStore} {directory file file' : String} {place : Place}
    (hplain : '/' ∉ file.toList) (hplain' : '/' ∉ file'.toList)
    (h : s.fileAt? (Path.join directory file) = some place)
    (h' : s.fileAt? (Path.join directory file') = some place) : file = file' := by
  obtain ⟨front, hcomponents⟩ := Path.components_lead_append directory
  obtain ⟨here, hstart⟩ := Path.start_lead_append directory
  have hplace : ∀ name : String, '/' ∉ name.toList →
      s.fileAt? (Path.join directory name) = some place →
        ∃ p, front.foldlM s.enter? here = some p ∧ place = p.child name := by
    intro name hname hlead
    rw [Path.join_of_relative (Path.isAbsolute_of_plain hname), fileAt?,
      Option.filter_eq_some_iff, locate?, hcomponents name hname, hstart name hname] at hlead
    simp only [List.getLastD_concat, List.dropLast_concat] at hlead
    obtain ⟨hlocate, -⟩ := hlead
    split at hlocate
    · cases hlocate
    · obtain ⟨p, hp, hchild⟩ := Option.bind_eq_some_iff.1 hlocate
      exact ⟨p, hp, (Option.some.inj hchild).symm⟩
  obtain ⟨p, hp, hchild⟩ := hplace file hplain h
  obtain ⟨p', hp', hchild'⟩ := hplace file' hplain' h'
  obtain rfl := Option.some.inj (hp.symm.trans hp')
  have hnames : p.names ++ [file] = p.names ++ [file'] :=
    congrArg Place.names (hchild.symm.trans hchild')
  exact List.singleton_inj.1 (List.append_cancel_left hnames)

end Bindery
