import CodecTables.Proofs.Compile.Text
import CodecTables.Proofs.Source.Tidy

/-!
# Titles of sections

Compiling comments nothing but its sections: what a run adds to the comments of a source are
headings with the titles of sections (`Courses.titled`), and no title ends in a blank. So all that
is compiled after an opening is tidy (`exists_tidy`).
-/

namespace CodecTables.Compile

open Files (Tree)
open Source (Ended Neat Node Spells)

/-- The text of a comment. -/
def commentOf? : Node → Option String
  | .comment text => some text
  | _ => none

/-- The comments of a source, in order. -/
def comments (source : List Node) : List String := source.filterMap commentOf?

/-- The comment that opens a section. -/
def headingOf (title : String) : String := "MARK:- " ++ title ++ "\n"

/-- The comments of two sources are those of the first and of the second. -/
theorem comments_append (source source' : List Node) :
    comments (source ++ source') = comments source ++ comments source' :=
  List.filterMap_append

/-- The second source has the comments of the first one, and headings of sections. -/
def Titled (source source' : List Node) : Prop :=
  ∃ headings : List String, (∀ title ∈ headings, title ∈ titles) ∧
    comments source' = comments source ++ headings.map headingOf

namespace Titled

variable {source source' source'' : List Node}

theorem of_eq (same : comments source' = comments source) : Titled source source' :=
  ⟨[], nofun, same.trans (List.append_nil _).symm⟩

theorem trans (first : Titled source source') (second : Titled source' source'') :
    Titled source source'' := by
  obtain ⟨headings, listed, same⟩ := first
  obtain ⟨headings', listed', same'⟩ := second
  refine ⟨headings ++ headings', List.forall_mem_append.mpr ⟨listed, listed'⟩, ?_⟩
  rw [same', same, List.map_append, List.append_assoc]

/-- A statement that is no comment changes nothing. -/
theorem add {statement : Node} (other : commentOf? statement = none) :
    Titled source (source ++ [statement]) :=
  of_eq (by simp [comments, other])

end Titled

variable {among : List UInt8 → Prop} {files : Tree} {s t : State} {used : List (List UInt8)}
  {tables : List (String × String)}

/-- A run adds comments that are titles only. -/
theorem Course.titled (course : Course among files s used tables t) :
    Titled s.statements t.statements := by
  induction course with
  | still statements => exact .of_eq (congrArg Compile.comments statements)
  | trans _ _ first second => exact first.trans second
  | heading s listed =>
    exact ⟨[_], by simpa using listed, comments_append _ _⟩
  | store _ _ run =>
    rcases takes_buffer.mp run with ⟨_, rfl⟩ | ⟨_, _, rfl⟩
    · exact .of_eq rfl
    · exact .add rfl
  | array => exact .add rfl
  | table => exact (Titled.add rfl).trans (.add rfl)

/-- Runs add comments that are titles only. -/
theorem Courses.titled (courses : Courses among s used tables t) :
    Titled s.statements t.statements := by
  induction courses with
  | nil s => exact .of_eq rfl
  | cons course _ ih => exact course.titled.trans ih

/-! ### Tidy sources -/

/-- A heading is a part of a line and does not end in a blank. -/
theorem neat_title {title : String} (listed : title ∈ titles) :
    Neat ("MARK:- " ++ title).toList := by
  have checked : ∀ title ∈ titles, Neat ("MARK:- " ++ title).toList := by decide +kernel
  exact checked title listed

/-- What is compiled after an opening is tidy. -/
theorem exists_tidy {opening : List Node} {types : TypeTables} {names : NameSupply}
    {list : List Visit} {results : List (List Node)} (none : Source.declaredNames opening = [])
    (run : Takes (visits buffer list) (.start opening types names) results s) :
    ∃ added, s.statements = opening ++ added ∧
      ∀ statement ∈ added, Spells statement.print Ended := by
  obtain ⟨added, same, legible⟩ := exists_legible none run
  have courses : Courses (fun _ => True) (.start opening types names) _ _ s :=
    courses_visits NameSupply.isPlain_kextTable (fun _ _ => trivial) run
  obtain ⟨headings, listed, commented⟩ := courses.titled
  have opened : comments added = headings.map headingOf := by
    rw [same, comments_append] at commented
    exact List.append_cancel_left commented
  refine ⟨added, same, fun statement member => (legible statement member).spells ?_⟩
  rintro line rfl
  have heading : line ++ "\n" ∈ headings.map headingOf := by
    rw [← opened]
    exact List.mem_filterMap.mpr ⟨_, member, rfl⟩
  obtain ⟨title, member', text⟩ := List.mem_map.mp heading
  have held : "MARK:- " ++ title = line := by simpa [headingOf] using text
  exact held ▸ neat_title (listed title member')

end CodecTables.Compile
