import Changesets.Diff.Error
import Changesets.Diff.File
import Changesets.Text.Lines

/-!
Writing sections back as a combined diff. Everything but the hunk headers is written as it was read;
a hunk whose body does not have the declared lines is refused.
-/
namespace Changesets.Diff

/-- The name with its time after a tab. -/
def Side.print (side : Side) : String :=
  match side.time with
  | some time => side.name ++ "\t" ++ time
  | none => side.name

def Hunk.toLines (hunk : Hunk) : List String :=
  hunk.header.print :: hunk.body

/-- The lines of a section, whether its hunks are consistent or not. -/
def File.toLines (file : File) : List String :=
  file.extended ++ file.binaryPatch ++
    (if file.hasHeader then ["--- " ++ file.old.print, "+++ " ++ file.new.print] else []) ++
    file.hunks.flatMap Hunk.toLines

/-- The first fault among the hunks of a section. -/
def File.fault? (file : File) : Option PrintError :=
  (file.hunks.find? fun hunk => ¬ hunk.Consistent).map fun hunk =>
    { path := file.effectivePath
      declaredOld := hunk.header.old.count.toNat
      declaredNew := hunk.header.new.count.toNat
      actualOld := oldLines hunk.body
      actualNew := newLines hunk.body }

/-- The text of the sections, or the first fault in them. -/
def print (files : List File) : Except PrintError String :=
  match files.findSome? File.fault? with
  | some e => .error e
  | none => .ok (Text.unlines (files.flatMap File.toLines))

end Changesets.Diff
