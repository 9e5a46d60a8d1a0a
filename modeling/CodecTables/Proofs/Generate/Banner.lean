import CodecTables.Proofs.Generate.Counts
import CodecTables.Proofs.Generate.Result
import CodecTables.Proofs.Source.Sequence
import CodecTables.Proofs.Text.Numeral

/-!
# The banner is a comment

A text that is generated begins with the lines of the banner, each after two slashes
(`exists_banner_of_generate`). A line break in one of the settings goes into the text as it is, so
the banner is only a comment if what stands behind the line break begins with two slashes of its own
(`onlyComments_banner`). Of settings without line breaks, nothing is left outside of the comment.
-/

namespace CodecTables

open Source (Node)

namespace Source

/-! ### Comments -/

/-- The text of comments, one after the other. -/
def commentText (lines : List String) : String :=
  String.join (lines.map fun line => "// " ++ line ++ "\n")

/-- The first line of a comment stands before the text of the others. -/
theorem commentText_cons (line : String) (lines : List String) :
    commentText (line :: lines) = "// " ++ line ++ "\n" ++ commentText lines := by
  rw [← String.toList_inj]
  simp [commentText, String.toList_join]

/-- A comment of one line is this line behind two slashes. -/
theorem render_comment (unit line : String) :
    (Node.sourceCode [.comment line]).render unit = .ok ("// " ++ line ++ "\n") := by
  have run : (Node.sourceCode [.comment line]).render unit =
      .ok (((Writer.start unit).write "// ").write (line ++ "\n")).text := rfl
  rw [run, ← Writer.write_append, Writer.text_write_of_level rfl, String.append_assoc]
  rfl

/-- Comments are printed one on each line. -/
theorem render_comments (unit : String) (lines : List String) :
    (Node.sourceCode (lines.map .comment)).render unit = .ok (commentText lines) := by
  induction lines with
  | nil => rfl
  | cons line lines ih =>
    rw [List.map_cons, ← List.singleton_append, render_append, render_comment, ih,
      commentText_cons]
    rfl

/-- An inclusion is printed on a line of its own, and a blank line follows. -/
theorem render_inclusion (unit header : String) :
    (Node.sourceCode [.inclusion header]).render unit =
      .ok ("#include \"" ++ header ++ "\"\n\n") := by
  have run : (Node.sourceCode [.inclusion header]).render unit =
      .ok (((Writer.start unit).write ("#include \"" ++ header ++ "\"" ++ "\n")).write "\n").text :=
    rfl
  rw [run, ← Writer.write_append, Writer.text_write_of_level rfl]
  simp [Writer.start, String.append_assoc]

/-- Each line of the text is empty or begins with two slashes. -/
def OnlyComments (text : String) : Prop :=
  ∀ line ∈ text.toList.splitOn '\n', line = [] ∨ ['/', '/'] <+: line

instance (text : String) : Decidable (OnlyComments text) :=
  inferInstanceAs (Decidable (∀ line ∈ _, _))

theorem onlyComments_append (x y : String) :
    OnlyComments (x ++ "\n" ++ y) ↔ OnlyComments x ∧ OnlyComments y := by
  have cut : (x ++ "\n" ++ y).toList.splitOn '\n' =
      x.toList.splitOn '\n' ++ y.toList.splitOn '\n' := by
    rw [← List.splitOn_append_cons_self]
    simp
  unfold OnlyComments
  rw [cut, List.forall_mem_append]

/-- A line behind two slashes is a comment. -/
theorem onlyComments_of_line {s : String} (line : '\n' ∉ s.toList) : OnlyComments ("// " ++ s) := by
  have single : '\n' ∉ ("// " ++ s).toList := by simpa using line
  unfold OnlyComments
  rw [List.splitOn_eq_singleton single, List.forall_mem_singleton]
  exact .inr ⟨' ' :: s.toList, by simp⟩

/-- Comments that follow each other are only comments if each of them is. -/
theorem onlyComments_commentText (lines : List String) :
    OnlyComments (commentText lines) ↔ ∀ line ∈ lines, OnlyComments ("// " ++ line) := by
  induction lines with
  | nil => exact iff_of_true (by decide) nofun
  | cons line lines ih => rw [commentText_cons, onlyComments_append, ih, List.forall_mem_cons]

end Source

namespace Data.Moment

theorem newline_notMem_digits (width n : Nat) : '\n' ∉ (digits width n).toList := by
  intro member
  rw [digits, String.toList_ofList] at member
  rcases Text.isAlphanum_of_mem_padded Text.isAlphanum_of_mem_decimalDigits member with
    same | letter
  · cases same
  · cases letter

theorem newline_notMem_stamp (m : Moment) : '\n' ∉ m.stamp.toList := by
  simp [stamp, newline_notMem_digits]

end Data.Moment

namespace Generate

open Source (OnlyComments commentText)

/-! ### The banner -/

theorem newline_notMem_fillLine (width : Nat) {line : String} (single : '\n' ∉ line.toList) :
    '\n' ∉ (fillLine width line).toList := by
  have blanks : '\n' ∉ List.replicate (width - line.length) ' ' := by simp
  rw [fillLine, String.toList_append, String.toList_ofList]
  exact fun member => (List.mem_append.mp member).elim single blanks

/-- The texts of the settings that are in the banner. -/
def Settings.bannerValues (settings : Settings) : List String :=
  [settings.outputName, settings.project, settings.rights]

/-- The lines of a banner are those of its text, filled up, and one more without text. -/
theorem eq_of_banner {settings : Settings} {time : String} {lines : List String}
    (lined : banner settings time = .ok lines) :
    lines = (bannerText settings time).map (fillLine settings.bannerWidth.toNat) ++
      [fillLine settings.bannerWidth.toNat "" ++ "\n"] := by
  unfold banner at lined
  rcases wide : Text.lengthOf .width settings.bannerWidth with excess | width
  · rw [wide] at lined
    cases lined
  · rw [wide] at lined
    cases lined
    rw [(Text.lengthOf_eq_ok_iff.mp wide).2.2]

/-- A line of the banner gives a setting, or has no line break. -/
theorem mem_bannerText {settings : Settings} {time line : String} (plain : '\n' ∉ time.toList)
    (member : line ∈ bannerText settings time) :
    (∃ value ∈ settings.bannerValues, line = " " ++ value) ∨ '\n' ∉ line.toList := by
  simp only [bannerText, List.mem_cons, List.not_mem_nil, or_false] at member
  rcases member with rfl | rfl | rfl | rfl | rfl | rfl | rfl | rfl | rfl
  · exact .inr (by decide)
  · exact .inl ⟨_, .head _, rfl⟩
  · exact .inl ⟨_, .tail _ (.head _), rfl⟩
  · exact .inr (by decide)
  · exact .inr (by simp [plain])
  · exact .inl ⟨_, .tail _ (.tail _ (.head _)), rfl⟩
  · exact .inr (by decide)
  · exact .inr (by simp)
  · exact .inr (by simp)

/-- The banner shows each of its values on a line. -/
theorem mem_bannerText_of_value {settings : Settings} {value : String} (time : String)
    (member : value ∈ settings.bannerValues) : " " ++ value ∈ bannerText settings time := by
  simp only [Settings.bannerValues, List.mem_cons, List.not_mem_nil, or_false] at member
  rcases member with rfl | rfl | rfl <;> simp [bannerText]

/-- The banner is only a comment if each setting in it is, filled up with blanks. -/
theorem onlyComments_banner {settings : Settings} {time : String} {lines : List String}
    (plain : '\n' ∉ time.toList) (lined : banner settings time = .ok lines) :
    OnlyComments (commentText lines) ↔ ∀ value ∈ settings.bannerValues,
      OnlyComments ("// " ++ fillLine settings.bannerWidth.toNat (" " ++ value)) := by
  rw [eq_of_banner lined, Source.onlyComments_commentText, List.forall_mem_append,
    List.forall_mem_map, List.forall_mem_singleton]
  generalize settings.bannerWidth.toNat = width
  have fixed {line : String} (single : '\n' ∉ line.toList) :
      OnlyComments ("// " ++ fillLine width line) :=
    Source.onlyComments_of_line (newline_notMem_fillLine width single)
  constructor
  · rintro ⟨each, _⟩ value member
    exact each _ (mem_bannerText_of_value time member)
  · intro values
    constructor
    · intro line member
      rcases mem_bannerText plain member with ⟨value, listed, rfl⟩ | single
      · exact values value listed
      · exact fixed single
    · have ended := (Source.onlyComments_append ("// " ++ fillLine width "") "").mpr
        ⟨fixed (by decide), by decide⟩
      rwa [String.append_empty, String.append_assoc] at ended

/-- Settings without line breaks stay in the comment. -/
theorem onlyComments_banner_of_line {settings : Settings} {time : String} {lines : List String}
    (plain : '\n' ∉ time.toList) (lined : banner settings time = .ok lines)
    (single : ∀ value ∈ settings.bannerValues, '\n' ∉ value.toList) :
    OnlyComments (commentText lines) := by
  refine (onlyComments_banner plain lined).mpr fun value member => ?_
  have spaced : '\n' ∉ (" " ++ value).toList := by simpa using single value member
  exact Source.onlyComments_of_line (newline_notMem_fillLine _ spaced)

/-! ### The text -/

/-- The opening is the banner as a comment and the inclusion of the header. -/
theorem render_opening (settings : Settings) (lines : List String) (unit : String) :
    (Node.sourceCode (Generator.opening settings lines)).render unit =
      .ok (commentText lines ++ ("#include \"" ++ settings.header ++ "\"\n\n")) := by
  rw [Generator.opening, Source.render_append, Source.render_comments, Source.render_inclusion]
  rfl

/-- A text begins with the banner, and goes on with the inclusion of the header. -/
theorem exists_banner_of_generate {generator : Generator} {w w' : Workspace} {text : String}
    (generated : outcome generator.generate w = (.ok text, w')) :
    ∃ lines back, banner generator.settings (generator.settings.time w.now) = .ok lines ∧
      text = commentText lines ++
        ("#include \"" ++ generator.settings.header ++ "\"\n" ++ back) := by
  obtain ⟨log, same⟩ := outcome_generate generator w
  have found : foundText w.files w.now generator = .ok text :=
    congrArg Prod.fst (same.symm.trans generated)
  unfold foundText at found
  split at found
  · cases found
  next bundles _ =>
  unfold textOf at found
  split at found
  · cases found
  next lines lined =>
  split at found
  · cases found
  next results state run =>
  have grows := Compile.frame_extends.mapM
    (visitsOf w.files generator.tables (Resource.VendorGroup.group bundles)) fun visit _ =>
      Compile.extends_entityWith Compile.extends_buffer visit.files visit.entity
  obtain ⟨added, whole⟩ := (grows.of_takes run).statements
  have opening : (opened generator.settings lines).statements =
      Generator.opening generator.settings lines := rfl
  rw [rendered, ← whole, opening, Source.render_append, render_opening] at found
  rcases rest : (Node.sourceCode added).render generator.settings.indent with reason | back
  · rw [rest] at found
    cases found
  · rw [rest] at found
    refine ⟨lines, "\n" ++ back, lined, ?_⟩
    cases found
    rw [← String.toList_inj]
    simp

/-- Whatever text is generated begins with the banner, before the inclusion of the header. What is
before it is only a comment if each setting in the banner is one, filled up with blanks; so it is if
no setting in the banner has a line break. -/
theorem generate_banner_comment {generator : Generator} {w w' : Workspace} {text : String}
    (generated : outcome generator.generate w = (.ok text, w')) :
    ∃ lines back, banner generator.settings (generator.settings.time w.now) = .ok lines ∧
      text = commentText lines ++
        ("#include \"" ++ generator.settings.header ++ "\"\n" ++ back) ∧
      (OnlyComments (commentText lines) ↔ ∀ value ∈ generator.settings.bannerValues,
        OnlyComments ("// " ++ fillLine generator.settings.bannerWidth.toNat (" " ++ value))) ∧
      ((∀ value ∈ generator.settings.bannerValues, '\n' ∉ value.toList) →
        OnlyComments (commentText lines)) := by
  obtain ⟨lines, back, lined, whole⟩ := exists_banner_of_generate generated
  have plain := (generator.settings.timestamp.getD w.now).newline_notMem_stamp
  exact ⟨lines, back, lined, whole, onlyComments_banner plain lined,
    onlyComments_banner_of_line plain lined⟩

/-- A text with one kext begins with a banner that is a comment. -/
theorem generate_banner_comment_oneKext : ∃ text w' lines back,
    outcome oneKext.generate oneFile = (.ok text, w') ∧
      text = commentText lines ++ ("#include \"kern_resources.hpp\"\n" ++ back) ∧
      OnlyComments (commentText lines) := by
  obtain ⟨text, w', generated⟩ := @exists_of_toBool _ oneKext.generate oneFile (by decide +kernel)
  obtain ⟨lines, back, _, whole, _, comment⟩ := generate_banner_comment generated
  exact ⟨text, w', lines, back, generated, whole, comment (by decide +kernel)⟩

/-- A project with a line break. -/
def brokenProject : Generator :=
  { oneKext with settings := { project := "AppleALC\nint x;" } }

/-- What stands behind a line break is no comment. -/
theorem generate_banner_broken : ∃ text w' lines back,
    outcome brokenProject.generate oneFile = (.ok text, w') ∧
      text = commentText lines ++ ("#include \"kern_resources.hpp\"\n" ++ back) ∧
      ¬ OnlyComments (commentText lines) := by
  obtain ⟨text, w', generated⟩ :=
    @exists_of_toBool _ brokenProject.generate oneFile (by decide +kernel)
  obtain ⟨lines, back, lined, whole⟩ := exists_banner_of_generate generated
  refine ⟨text, w', lines, back, generated, whole, fun comment => ?_⟩
  have plain := (brokenProject.settings.timestamp.getD oneFile.now).newline_notMem_stamp
  have project :=
    (onlyComments_banner plain lined).mp comment "AppleALC\nint x;" (by decide +kernel)
  exact absurd project (by decide +kernel)

end Generate

end CodecTables
