import JarAtlas.Json.String
import JarAtlas.Path

/-!
# Class names

A class name is a package and a simple name with a dot between them. It determines where the class
stands in a jar and where its source is kept in a project.
-/

namespace JarAtlas.ClassName

/-- The package: what stands in front of the last dot. -/
def package (className : Text) : Text := ((Text.cutLast '.' className).map Prod.fst).getD []

/-- The simple name: what stands behind the last dot. -/
def simple (className : Text) : Text := ((Text.cutLast '.' className).map Prod.snd).getD className

/-- How the entry of a class ends. -/
def entryEnding : Text := ".class"

/-- The entry of a class in a jar: its name with slashes for dots. -/
def entry (className : Text) : Text :=
  className.map (fun character => if character = '.' then '/' else character) ++ entryEnding

/-- The entry of a class whose name may be broken. -/
def entryOf : JsonString → JsonString
  | .text className => .text (entry className)
  | .broken codes =>
    .broken (codes.map (fun code => if code = 0x2E then 0x2F else code) ++
      entryEnding.map Char.toNat)

/-- The name of the class that an entry holds. Entries of nested classes, which hold a dollar sign,
and entries of anything else have none. -/
def ofEntry? (entry : Text) : Option Text :=
  if Text.endsWith entryEnding entry && !entry.contains '$' then
    some ((Text.dropEnding entryEnding entry).map fun character =>
      if character = '/' then '.' else character)
  else none

/-- The directory of a project that keeps decompiled sources. -/
def cacheDirectory : Text := ".mcp-decompile-cache"

/-- Where a project keeps the source of a class: under its package's directories, by its simple
name. -/
def cachePath (className : Text) (project : Path) : Path :=
  let directory :=
    (Text.pieces '.' (package className)).foldl Path.join (project.join cacheDirectory)
  directory.join (simple className ++ ".java")

end JarAtlas.ClassName
