import CodecTables.Directory.Table
import CodecTables.Report.Log
import CodecTables.Text.Lowercase

/-!
# Codec bundles of a resource directory

A codec bundle is a directory in the resource directory that is neither hidden nor a package. A
bundle that cannot be loaded is left out, with an error in the log. The order in which a listing
gives the names does not matter (`inOrder_eq_of_perm`).
-/

namespace CodecTables.Directory

open Files (Path Tree)
open Generate (Settings)
open Report (Failure Record)
open Resource (CodecBundle)

/-- The bundle of a directory, by the description in it. -/
def loadBundle (files : Tree) (directory : Path) (infoFile : String) :
    Except Failure CodecBundle :=
  match load Decode.codecInfo files (directory.join (.ofString infoFile)) with
  | .ok info => .ok ⟨info, directory⟩
  | .error (.fault cause) => .error (.fault (.invalidBundle directory cause))
  | .error failure => .error failure

/-- Whether a path may be a codec bundle. What is hidden is not looked at. -/
def isCandidate (files : Tree) (settings : Settings) (path : Path) : Except Failure Bool :=
  if path.name.startsWith "." then .ok false
  else match files.isDirectory path with
    | .error problem => .error (.inaccessible problem path)
    | .ok isDirectory =>
      .ok (isDirectory && !settings.packageSuffixes.contains (Text.lowercase path.suffix))

/-- What a search gives: the bundles that were loaded, and the records about all that were tried. -/
abbrev Found := Except Failure (List CodecBundle) × List Record

/-- Puts what becomes of a path before what is found after it. A path that cannot be looked at ends
the search. -/
def consider (files : Tree) (settings : Settings) (path : Path) (later : Found) : Found :=
  match isCandidate files settings path with
  | .error failure => (.error failure, [])
  | .ok false => later
  | .ok true =>
    match loadBundle files path settings.bundleInfoFile with
    | .ok bundle =>
      (later.1.map (bundle :: ·),
        ⟨.debug, .loader, "Loaded codec bundle " ++ path.name⟩ :: later.2)
    | .error (.fault f) => (later.1, ⟨.error, .loader, f.text⟩ :: later.2)
    | .error failure => (.error failure, [])

/-- The bundles among the given paths that can be loaded, and the records about all of them. -/
def loadBundles (files : Tree) (settings : Settings) (paths : List Path) : Found :=
  paths.foldr (consider files settings) (.ok [], [])

/-- The names of a listing in increasing order, whatever the order of the listing. -/
def inOrder (names : List String) : List String :=
  names.mergeSort fun a b => decide (a ≤ b)

theorem inOrder_perm (names : List String) : (inOrder names).Perm names :=
  List.mergeSort_perm names _

theorem pairwise_inOrder (names : List String) : (inOrder names).Pairwise (· ≤ ·) := by
  have h := @List.pairwise_mergeSort String (fun a b => decide (a ≤ b))
    (fun _ _ _ hab hbc => decide_eq_true
      (String.le_trans (of_decide_eq_true hab) (of_decide_eq_true hbc)))
    (fun a b => by simp [String.le_total a b]) names
  exact h.imp fun hab => of_decide_eq_true hab

/-- Listings of the same names are put into the same order. -/
theorem inOrder_eq_of_perm {listing other : List String} (h : listing.Perm other) :
    inOrder listing = inOrder other :=
  List.Perm.eq_of_pairwise (fun _ _ _ _ => String.le_antisymm) (pairwise_inOrder listing)
    (pairwise_inOrder other) ((inOrder_perm listing).trans (h.trans (inOrder_perm other).symm))

/-- Finds the codec bundles of a resource directory, in the order of their names. -/
def findBundles (files : Tree) (directory : Path) (settings : Settings) : Found :=
  match files.list directory with
  | .ok names => loadBundles files settings ((inOrder names).map directory.child)
  | .error .nulInPath => (.error .nulInPath, [])
  | .error problem => (.error (.inaccessible problem directory), [])

end CodecTables.Directory
