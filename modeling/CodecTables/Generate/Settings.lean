import CodecTables.Data.Calendar
import CodecTables.Source.Writer
import CodecTables.Text.Blank

/-!
# Settings of a generator

Names of files, the content and width of the banner, and the indentation of the generated source.
Questionable settings are warned of, and used all the same.
-/

namespace CodecTables.Generate

open Data (Moment)

/-- The settings of a generator with their defaults. -/
structure Settings where
  codecLookupFile : String := "CodecLookup.plist"
  controllersFile : String := "Controllers.plist"
  kextsFile : String := "Kexts.plist"
  bundleInfoFile : String := "Info.plist"
  header : String := "kern_resources.hpp"
  outputName : String := "kern_resources.cpp"
  project : String := "AppleALC"
  rights : String := "Copyright © 2016-2018 vit9696. All rights reserved."
  indent : String := Source.Writer.defaultUnit
  bannerWidth : Int := 60
  /-- The suffixes of directories that are packages and no codec bundles. -/
  packageSuffixes : List String := [".app", ".bundle", ".framework", ".kext", ".plugin"]
  timestamp : Option Moment := none

namespace Settings

/-- The time of generation as the banner gives it: the fixed one, or else the present. -/
def time (settings : Settings) (now : Moment) : String := (settings.timestamp.getD now).stamp

/-- What is questionable about the settings. -/
def warnings (settings : Settings) : List String :=
  (if settings.bannerWidth ≤ 0 then ["banner_width must be positive"] else []) ++
    (if settings.header.isEmpty then ["header must not be empty"] else []) ++
    (if (Text.trim settings.indent.toList).isEmpty then []
      else ["indent must consist of whitespace only"])

end Settings

end CodecTables.Generate
