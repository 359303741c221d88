import SetupScript.Files.Tree

/-!
# Changes of a file tree

What is different between two file trees, place by place. A place that lost its entry is listed
with nothing.
-/

namespace SetupScript.FileTree

def changes (before after : FileTree) : List (Location × Option Entry) :=
  let changed := after.entries.filterMap fun x =>
    if before.get? x.1 == some x.2 then none else some (x.1, some x.2)
  let lost := before.entries.filterMap fun x =>
    if (after.get? x.1).isSome then none else some (x.1, none)
  changed ++ lost

end SetupScript.FileTree
