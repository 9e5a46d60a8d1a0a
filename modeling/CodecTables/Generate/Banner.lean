import CodecTables.Generate.Settings

/-!
# The banner

The comment at the top of a generated source. Its lines are filled up with blanks to one width, and
an empty line follows them.
-/

namespace CodecTables.Generate

/-- Fills a line up with blanks to a width in characters. -/
def fillLine (width : Nat) (line : String) : String :=
  line ++ String.ofList (List.replicate (width - line.length) ' ')

/-- The lines of the banner before they are filled up. -/
def bannerText (settings : Settings) (time : String) : List String :=
  ["", " " ++ settings.outputName, " " ++ settings.project, "",
    " Created by ResourceGenerator on " ++ time ++ ".", " " ++ settings.rights, "",
    " This is an auto-generated file.", " Please avoid any direct modifications."]

/-- The lines of the banner. The last one ends in a line break. -/
def banner (settings : Settings) (time : String) : Except Text.Excess (List String) := do
  let width ← Text.lengthOf .width settings.bannerWidth
  return (bannerText settings time).map (fillLine width) ++ [fillLine width "" ++ "\n"]

end CodecTables.Generate
