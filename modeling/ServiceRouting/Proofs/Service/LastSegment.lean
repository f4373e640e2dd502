import ServiceRouting.Proofs.Text.Trimming
import ServiceRouting.Service.Entry

/-!
# The name of a path is its last segment

A path has three parts: the directories before its last segment, that segment, and the slashes that end
it (`PathParts`).  The name is the last two of them, and the byte at which it is cut from the path always
starts a character (`name_is_last_segment`).
-/

set_option autoImplicit false

namespace ServiceRouting

/-! ## Looking for slashes from the end -/

theorem withoutEnding_append {body ending : List Char} (slashes : ∀ char ∈ ending, char = '/')
    (last : ∀ char ∈ body.getLast?, char ≠ '/') : withoutEnding (body ++ ending) = body := by
  refine rdropWhile_append ?_ ?_
  · intro char member
    simp [slashes char member]
  · intro char final
    simpa using last char final

theorem lastSlash?_eq_none {text : List Char} (absent : '/' ∉ text) : lastSlash? text = none := by
  induction text with
  | nil => rfl
  | cons char rest ih =>
    simp only [List.mem_cons, not_or] at absent
    rw [lastSlash?, ih absent.2]
    simp [Ne.symm absent.1]

theorem lastSlash?_append {before after : List Char} (absent : '/' ∉ after) :
    lastSlash? (before ++ '/' :: after) = some (String.ofList before).utf8ByteSize := by
  induction before with
  | nil =>
    rw [List.nil_append, lastSlash?, lastSlash?_eq_none absent]
    simp
  | cons char rest ih =>
    rw [List.cons_append, lastSlash?, ih]
    simp

/-! ## The parts of a path -/

/-- The directories before the last segment, the segment, and the slashes behind it.  Without a segment
all is ending. -/
structure PathParts (path before segment ending : String) : Prop where
  whole : path = before ++ segment ++ ending
  directories : before = "" ∨ ∃ parent, before = parent ++ "/"
  unbroken : '/' ∉ segment.toList
  slashes : ∀ char ∈ ending.toList, char = '/'
  filled : (∃ char ∈ path.toList, char ≠ '/') → segment ≠ ""
  bare : (∀ char ∈ path.toList, char = '/') → before = ""

theorem exists_last_slash {text : List Char} (slash : '/' ∈ text) :
    ∃ before after, text = before ++ '/' :: after ∧ '/' ∉ after := by
  obtain ⟨after, before, reversed, absent⟩ :=
    List.eq_append_cons_of_mem (List.mem_reverse.mpr slash)
  refine ⟨before.reverse, after.reverse, ?_, by simpa using absent⟩
  have forward := congrArg List.reverse reversed
  simpa using forward

theorem exists_pathParts (path : String) :
    ∃ before segment ending, PathParts path before segment ending := by
  by_cases slashes : ∀ char ∈ path.toList, char = '/'
  · refine ⟨"", "", path, by simp, .inl rfl, by simp, slashes, ?_, fun _ => rfl⟩
    rintro ⟨char, member, other⟩
    exact absurd (slashes char member) other
  · let body := path.toList.rdropWhile (· == '/')
    let ending := path.toList.rtakeWhile (· == '/')
    have whole : body ++ ending = path.toList := List.rdropWhile_append_rtakeWhile
    have ended : ∀ char ∈ ending, char = '/' := by
      intro char member
      simpa using List.mem_rtakeWhile_imp member
    have filled : body ≠ [] := by
      intro empty
      have passed := List.rdropWhile_eq_nil_iff.mp empty
      exact slashes fun char member => by simpa using passed char member
    have last : body.getLast filled ≠ '/' := by
      simpa using List.rdropWhile_last_not (· == '/') path.toList filled
    by_cases slash : '/' ∈ body
    · obtain ⟨front, segment, split, absent⟩ := exists_last_slash slash
      have shown : segment ≠ [] := by
        rintro rfl
        simp [split] at last
      refine ⟨String.ofList front ++ "/", String.ofList segment, String.ofList ending, ?_,
        .inr ⟨_, rfl⟩, by simpa using absent, by simpa using ended, ?_, ?_⟩
      · rw [← String.toList_inj, ← whole, split]
        simp
      · intro _ empty
        simp [shown] at empty
      · intro all
        exact absurd all slashes
    · refine ⟨"", String.ofList body, String.ofList ending, ?_, .inl rfl, by simpa using slash,
        by simpa using ended, ?_, fun _ => rfl⟩
      · rw [← String.toList_inj, ← whole]
        simp
      · intro _ empty
        simp [filled] at empty

namespace PathParts

variable {path before segment ending : String}

theorem last_of_segment (parts : PathParts path before segment ending) :
    ∀ char ∈ (before ++ segment).toList.getLast?, char ≠ '/' := by
  by_cases empty : segment = ""
  · have slashes : ∀ char ∈ path.toList, char = '/' := by
      by_contra other
      simp only [not_forall] at other
      obtain ⟨char, member, unlike⟩ := other
      exact parts.filled ⟨char, member, unlike⟩ empty
    have nothing : before = "" := parts.bare slashes
    simp [nothing, empty]
  · have filled : segment.toList ≠ [] := by simpa using empty
    rintro char last rfl
    rw [String.toList_append, List.getLast?_append_of_ne_nil _ filled] at last
    exact parts.unbroken (List.mem_of_mem_getLast? last)

theorem nameOffset_eq {entry : Entry} (parts : PathParts entry.path before segment ending) :
    entry.nameOffset = before.utf8ByteSize := by
  have body : withoutEnding entry.path.toList = (before ++ segment).toList := by
    rw [parts.whole, String.toList_append]
    exact withoutEnding_append parts.slashes parts.last_of_segment
  rw [Entry.nameOffset, body]
  rcases parts.directories with rfl | ⟨parent, rfl⟩
  · have nothing : lastSlash? ("" ++ segment).toList = none :=
      lastSlash?_eq_none (by simpa using parts.unbroken)
    rw [nothing]
    rfl
  · have found : lastSlash? (parent ++ "/" ++ segment).toList = some parent.utf8ByteSize := by
      have behind : lastSlash? (parent.toList ++ '/' :: segment.toList) =
          some (String.ofList parent.toList).utf8ByteSize :=
        lastSlash?_append parts.unbroken
      simpa using behind
    rw [found, String.utf8ByteSize_append]
    rfl

end PathParts

/-! ## Cutting the name -/

namespace Entry

variable {entry : Entry} {before segment ending : String}

theorem pathFrom?_eq_some {after : String} (whole : entry.path = before ++ after) :
    entry.pathFrom? before.utf8ByteSize = some after := by
  have valid : (String.Pos.Raw.mk before.utf8ByteSize).IsValid entry.path :=
    String.Pos.Raw.isValid_iff_exists_append.mpr ⟨before, after, whole, rfl⟩
  have cut : (entry.path.pos ⟨before.utf8ByteSize⟩ valid).Splits before after := ⟨whole, rfl⟩
  rw [pathFrom?, dif_pos valid, cut.copy_sliceFrom_eq]

theorem pathFrom?_nameOffset (parts : PathParts entry.path before segment ending) :
    entry.pathFrom? entry.nameOffset = some (segment ++ ending) := by
  rw [parts.nameOffset_eq]
  exact pathFrom?_eq_some (by rw [parts.whole, String.append_assoc])

theorem name_eq (parts : PathParts entry.path before segment ending) : entry.name = segment ++ ending := by
  rw [name, pathFrom?_nameOffset parts, Option.getD_some]

end Entry

theorem PathParts.under {path before segment ending : String}
    (parts : PathParts path before segment ending) (filled : ∃ char ∈ path.toList, char ≠ '/')
    (parent : String) :
    PathParts (parent ++ "/" ++ path) (parent ++ "/" ++ before) segment ending where
  whole := by rw [parts.whole]; simp [String.append_assoc]
  directories := by
    rcases parts.directories with rfl | ⟨inner, rfl⟩
    · exact .inr ⟨parent, by simp⟩
    · exact .inr ⟨parent ++ "/" ++ inner, by simp [String.append_assoc]⟩
  unbroken := parts.unbroken
  slashes := parts.slashes
  filled _ := parts.filled filled
  bare slashes := by
    obtain ⟨char, member, other⟩ := filled
    exact absurd (slashes char (by simp [member])) other

/-- The byte at which the name of a path is cut lies in the path and starts a character.  Of the parts of
the path, which it always has, the name is the last segment with all slashes behind it; a path of
nothing but slashes is its own name.  Directories put before a path with a segment do not change the
name. -/
theorem name_is_last_segment (entry : Entry) :
    (String.Pos.Raw.mk entry.nameOffset).IsValid entry.path ∧
    entry.pathFrom? entry.nameOffset = some entry.name ∧
    (∃ before segment ending, PathParts entry.path before segment ending) ∧
    (∀ before segment ending, PathParts entry.path before segment ending →
      entry.nameOffset = before.utf8ByteSize ∧ entry.name = segment ++ ending) ∧
    ((∀ char ∈ entry.path.toList, char = '/') → entry.name = entry.path) ∧
    ∀ parent, (∃ char ∈ entry.path.toList, char ≠ '/') →
      Entry.name { entry with path := parent ++ "/" ++ entry.path } = entry.name := by
  obtain ⟨before, segment, ending, parts⟩ := exists_pathParts entry.path
  have named : entry.name = segment ++ ending := Entry.name_eq parts
  refine ⟨?_, ?_, ⟨before, segment, ending, parts⟩, ?_, ?_, ?_⟩
  · rw [parts.nameOffset_eq]
    refine String.Pos.Raw.isValid_iff_exists_append.mpr ⟨before, segment ++ ending, ?_, rfl⟩
    rw [parts.whole, String.append_assoc]
  · rw [Entry.pathFrom?_nameOffset parts, named]
  · intro _ _ _ others
    exact ⟨others.nameOffset_eq, Entry.name_eq others⟩
  · intro slashes
    have alone : before = "" := parts.bare slashes
    rw [named, parts.whole, alone]
    simp
  · intro parent filled
    let moved : Entry := { entry with path := parent ++ "/" ++ entry.path }
    have under : PathParts moved.path (parent ++ "/" ++ before) segment ending :=
      parts.under filled parent
    exact (Entry.name_eq under).trans named.symm

theorem name_below_server :
    let entry : Entry := ⟨"größe//", { mode := .dir }⟩
    Entry.name { entry with path := "/srv/" ++ "/" ++ entry.path } = "größe//" ∧
      entry.nameOffset = 0 := by
  intro entry
  have parts : PathParts entry.path "" "größe" "//" :=
    ⟨rfl, .inl rfl, by simp, by simp, by simp, fun _ => rfl⟩
  obtain ⟨_, _, _, cut, _, below⟩ := name_is_last_segment entry
  obtain ⟨offset, named⟩ := cut _ _ _ parts
  refine ⟨?_, offset⟩
  rw [below "/srv/" ⟨'g', by simp [entry], by decide⟩]
  exact named

end ServiceRouting
