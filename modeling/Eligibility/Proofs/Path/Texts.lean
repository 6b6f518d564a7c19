import Eligibility.Json.Forms
import Eligibility.Proofs.Condition.Parts
import Eligibility.Proofs.Json.RoundTrip
import Eligibility.Proofs.Text

namespace Eligibility

namespace Path

open Text (isBlank trim)

def Names (segment : List Char) (branch : Branch) : Prop := trim segment = branch.text.toList

def dotted (text : String) : List (List Char) := (trim text.toList).splitOn '.'

-- One text for all that are read as the same path.
def canonical? (text : String) : Option String := (read text).toOption.map display

section

variable {text segment : List Char} {branch : Branch} {path : Path} {fault : Fault}

theorem segments_splitOn (text : List Char) : segments text = text.splitOn '.' := by
  induction text with
  | nil => rfl
  | cons c rest ih =>
    rw [segments,List.splitOn_cons_eq_if_modifyHead,ih]
    by_cases point : c = '.'
    · simp [point]
    · obtain ⟨first,more,parts⟩ := List.exists_cons_of_ne_nil (List.splitOn_ne_nil '.' rest)
      simp [point,parts]

theorem ofText_branch {text : String} : Branch.ofText? text = some branch ↔ text = branch.text := by
  constructor
  · intro found
    unfold Branch.ofText? at found
    split at found
    · cases found
      assumption
    split at found
    · cases found
      assumption
    · cases found
  · rintro rfl
    cases branch <;> rfl

theorem names_text : Names segment branch ↔ String.ofList (trim segment) = branch.text := by
  rw [Names,← String.toList_inj,String.toList_ofList]

theorem readSegment_named : readSegment segment = .ok branch ↔ Names segment branch := by
  rw [names_text,← ofText_branch,readSegment]
  cases Branch.ofText? (String.ofList (trim segment)) <;> simp

theorem readSegment_refused : readSegment segment = .error fault ↔
    (∀ branch, ¬Names segment branch) ∧ fault = .path (.unknownSegment (String.ofList (trim segment))) := by
  simp only [names_text,← ofText_branch,readSegment]
  cases Branch.ofText? (String.ofList (trim segment)) <;> simp [eq_comm]

theorem read_blank {text : String} (blank : isBlankText text = true) : read text = .ok [] := by
  unfold read
  rw [Text.trim_blank (List.all_eq_true.mp blank)]

theorem read_dotted {text : String} (visible : isBlankText text = false) :
    read text = (dotted text).mapM readSegment := by
  unfold read
  split
  next gone =>
    rw [isBlankText,List.all_eq_true.mpr (Text.trim_gone gone)] at visible
    cases visible
  next first rest trimmed => rw [segments_splitOn,dotted,trimmed]

theorem ofSegments_dotted (text : String) :
    ofSegments ((dotted text).map String.ofList) = (dotted text).mapM readSegment := by
  rw [ofSegments,List.mapM_map]
  simp only [Function.comp_def,String.toList_ofList]

theorem read_accepted (text : String) : (∃ path, read text = .ok path) ↔
    isBlankText text = true ∨ ∀ segment ∈ dotted text, ∃ branch, Names segment branch := by
  cases blank : isBlankText text with
  | true => exact ⟨fun _ => .inl rfl,fun _ => ⟨[],read_blank blank⟩⟩
  | false =>
    rw [read_dotted blank,mapM_accepted]
    simp [readSegment_named]

theorem read_refused (text : String) (fault : Fault) : read text = .error fault ↔
    isBlankText text = false ∧ ∃ before bad behind, dotted text = before ++ bad :: behind ∧
      (∀ segment ∈ before, ∃ branch, Names segment branch) ∧ (∀ branch, ¬Names bad branch) ∧
      fault = .path (.unknownSegment (String.ofList (trim bad))) := by
  cases blank : isBlankText text with
  | true => simp [read_blank blank]
  | false =>
    rw [read_dotted blank,mapM_error]
    simp [readSegment_named,readSegment_refused]

theorem branch_plain (branch : Branch) :
    (∀ c ∈ branch.text.toList, isBlank c = false) ∧ '.' ∉ branch.text.toList := by
  have letters : branch.text.toList.all (fun c => !isBlank c) = true := by cases branch <;> rfl
  refine ⟨fun c member => ?_,by cases branch <;> decide⟩
  simpa using List.all_eq_true.mp letters c member

theorem branch_named (branch : Branch) : Names branch.text.toList branch :=
  Text.trim_visible (branch_plain branch).1

theorem branches_read (path : Path) : path.mapM (fun step => readSegment step.text.toList) = .ok path := by
  induction path with
  | nil => rfl
  | cons step rest ih =>
    rw [List.mapM_cons,readSegment_named.mpr (branch_named step),ih]
    rfl

theorem display_visible (path : Path) : ∀ c ∈ path.display.toList, isBlank c = false := by
  induction path with
  | nil => nofun
  | cons step rest ih =>
    cases rest with
    | nil => simpa [display] using (branch_plain step).1
    | cons next rest =>
      have whole : display (step :: next :: rest) = step.text ++ "." ++ display (next :: rest) :=
        String.intercalate_cons_cons
      intro c member
      rw [whole,String.toList_append,String.toList_append,List.append_assoc] at member
      rcases List.mem_append.mp member with here | behind
      · exact (branch_plain step).1 c here
      · rcases List.mem_cons.mp behind with rfl | later
        · rfl
        · exact ih c later

theorem display_dotted (nonempty : path ≠ []) : dotted path.display = path.map (·.text.toList) := by
  have chars : path.display.toList = ['.'].intercalate (path.map (·.text.toList)) := by
    rw [display,String.toList_intercalate,List.map_map]
    rfl
  rw [dotted,Text.trim_visible (display_visible path),chars]
  apply List.splitOn_intercalate
  · intro segment member
    obtain ⟨step,_,rfl⟩ := List.mem_map.mp member
    exact (branch_plain step).2
  · simpa using nonempty

theorem display_filled (nonempty : path ≠ []) : isBlankText path.display = false := by
  cases blank : isBlankText path.display with
  | false => rfl
  | true =>
    have parts := display_dotted nonempty
    obtain ⟨step,rest,rfl⟩ := List.exists_cons_of_ne_nil nonempty
    rw [dotted,Text.trim_blank (List.all_eq_true.mp blank),List.splitOn_nil] at parts
    cases step <;> cases (List.cons.inj parts).1

theorem read_display (path : Path) : read path.display = .ok path := by
  by_cases root : path = []
  · subst root
    rfl
  · rw [read_dotted (display_filled root),display_dotted root,List.mapM_map,Function.comp_def]
    exact branches_read path

theorem toJson_strings (path : Path) : path.toJson = .array ((path.map Branch.text).map .string) := by
  rw [toJson,List.map_map]
  rfl

theorem ofJson_toJson (path : Path) : ofJson? path.toJson = some path := by
  have read : ofSegments (path.map Branch.text) = .ok path := by
    rw [ofSegments,List.mapM_map,Function.comp_def]
    exact branches_read path
  rw [toJson_strings]
  change (textsOf? _).bind _ = _
  rw [textsOf_strings,Option.bind_some,read]
  rfl

theorem ofJson_display (path : Path) : ofJson? (.string path.display) = some path := by
  change (read path.display).toOption = _
  rw [read_display]
  rfl

theorem display_inj {other : Path} (same : other.display = path.display) : other = path := by
  have reads := other.read_display
  rw [same,path.read_display] at reads
  exact (Except.ok.inj reads).symm

theorem canonical_reads {text form : String} :
    canonical? text = some form ↔ ∃ path : Path, read text = .ok path ∧ path.display = form := by
  unfold canonical?
  cases read text <;> simp [Except.toOption]

-- What is read from a document that has no numbers is read from its text.
theorem ofText_written {json : Json} (legible : json.Legible) (plain : json.written = json)
    (reads : ofJson? json = some path) (layout : Json.Layout) :
    (Json.read? (String.ofList (json.chars layout 0))).bind ofJson? = some path := by
  rw [Json.read_chars layout json legible,plain]
  exact reads

theorem list_written (path : Path) (layout : Json.Layout) :
    (Json.read? (String.ofList (path.toJson.chars layout 0))).bind ofJson? = some path := by
  apply ofText_written _ _ path.ofJson_toJson
  · rw [toJson_strings]
    exact Json.legibleItems_strings _
  · rw [toJson_strings,Json.written,Json.writtenItems_strings]

theorem display_written (path : Path) (layout : Json.Layout) :
    (Json.read? (String.ofList ((Json.string path.display).chars layout 0))).bind ofJson? = some path := by
  have legible : (Json.string path.display).Legible := trivial
  exact ofText_written legible rfl path.ofJson_display layout

theorem canonical_same {text form : String} (canonical : canonical? text = some form) :
    read form = read text ∧ canonical? form = some form ∧
      ∀ other, canonical? other = some form ↔ read other = read text := by
  obtain ⟨path,accepted,rfl⟩ := canonical_reads.mp canonical
  refine ⟨path.read_display.trans accepted.symm,canonical_reads.mpr ⟨path,path.read_display,rfl⟩,?_⟩
  intro other
  rw [canonical_reads,accepted]
  constructor
  · rintro ⟨again,reads,same⟩
    rw [reads,display_inj same]
  · intro reads
    exact ⟨path,reads,rfl⟩

end

-- The canonical text stands for all texts of a path; any other text is refused for its first segment that is no
-- branch.
theorem texts_faithful :
    (∀ path : Path, read path.display = .ok path ∧ ofJson? path.toJson = some path ∧
      ofJson? (.string path.display) = some path ∧ ∀ layout : Json.Layout,
        (Json.read? (String.ofList (path.toJson.chars layout 0))).bind ofJson? = some path ∧
        (Json.read? (String.ofList ((Json.string path.display).chars layout 0))).bind ofJson? = some path) ∧
    ∀ text : String,
      ((∃ path, read text = .ok path) ↔
        isBlankText text = true ∨ ∀ segment ∈ dotted text, ∃ branch, Names segment branch) ∧
      (isBlankText text = true → read text = .ok []) ∧
      (isBlankText text = false → ∀ path, read text = .ok path →
        ofSegments ((dotted text).map String.ofList) = .ok path) ∧
      (∀ form, canonical? text = some form → read form = read text ∧ canonical? form = some form ∧
        ∀ other, canonical? other = some form ↔ read other = read text) ∧
      ∀ fault, read text = .error fault ↔ isBlankText text = false ∧
        ∃ before bad behind, dotted text = before ++ bad :: behind ∧
          (∀ segment ∈ before, ∃ branch, Names segment branch) ∧ (∀ branch, ¬Names bad branch) ∧
          fault = .path (.unknownSegment (String.ofList (trim bad))) := by
  constructor
  · intro path
    exact ⟨path.read_display,path.ofJson_toJson,path.ofJson_display,
      fun layout => ⟨path.list_written layout,path.display_written layout⟩⟩
  · intro text
    refine ⟨read_accepted text,read_blank,?_,fun _ => canonical_same,read_refused text⟩
    intro visible path accepted
    rw [ofSegments_dotted,← read_dotted visible,accepted]

-- White space counts at the ends of a text and of its segments only, and an empty segment is no branch.
example : canonical? "\tleft . right " = some "left.right" ∧ canonical? " " = some "" ∧
    canonical? "left..up" = none := by decide +kernel

end Path

end Eligibility
