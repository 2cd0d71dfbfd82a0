import SafeRerun.Proofs.Project.Listing
import SafeRerun.Proofs.Project.Selection

/-
  Searches in trees of the same shape.

  Key theorems include:
    * `SafeRerun.searchFrom_induction`
    * `SafeRerun.Tree.SameShape.searchFrom_eq`
    * `SafeRerun.Tree.SameShape.selectScripts_eq`

  A search looks at the names and kinds of entries, never at
  the bytes of files.  So it goes the same way in trees of the
  same shape, and finds twice in both what it finds twice in
  one.
-/

------------------------------------------------------------
-- Induction Along a Search
------------------------------------------------------------

namespace SafeRerun

/-
  Induction along a search: two segments of any depth in a
  row are searched as one, and another segment behind one is
  searched together with it.
-/
@[elab_as_elim]
theorem searchFrom_induction
    {motive : List PathSegment → Prop}
    (nil : motive [])
    (literal :
      ∀ name rest,
        motive rest → motive (.literal name :: rest))
    (wild :
      ∀ items rest,
        motive rest → motive (.wild items :: rest))
    (depthLast : motive [.anyDepth])
    (depthTwice :
      ∀ rest,
        motive (.anyDepth :: rest) →
          motive (.anyDepth :: .anyDepth :: rest))
    (depth :
      ∀ part rest,
        part ≠ .anyDepth →
          motive rest → motive (.anyDepth :: part :: rest)) :
    ∀ parts, motive parts
  | [] => nil
  | .literal name :: rest =>
      literal name rest
        (searchFrom_induction nil literal wild depthLast
          depthTwice depth rest)
  | .wild items :: rest =>
      wild items rest
        (searchFrom_induction nil literal wild depthLast
          depthTwice depth rest)
  | [.anyDepth] => depthLast
  | .anyDepth :: .anyDepth :: rest =>
      depthTwice rest
        (searchFrom_induction nil literal wild depthLast
          depthTwice depth (.anyDepth :: rest))
  | .anyDepth :: .literal name :: rest =>
      depth (.literal name) rest (by simp)
        (searchFrom_induction nil literal wild depthLast
          depthTwice depth rest)
  | .anyDepth :: .wild items :: rest =>
      depth (.wild items) rest (by simp)
        (searchFrom_induction nil literal wild depthLast
          depthTwice depth rest)

end SafeRerun

------------------------------------------------------------
-- Searching
------------------------------------------------------------

namespace SafeRerun

namespace Tree

variable {tree other : Tree}

theorem SameShape.lookAt_eq
    (hShape : tree.SameShape other) :
    tree.lookAt = other.lookAt := by
  funext path
  rw [lookAt, lookAt, hShape.isDirectory_eq]

theorem SameShape.seenAlong_eq
    (hShape : tree.SameShape other) :
    tree.seenAlong = other.seenAlong := by
  funext path location way
  rw [seenAlong, seenAlong, hShape.holdsDirectory_eq]

/- Each kind of segment leads to the same. -/
theorem SameShape.literalStep_eq
    (hShape : tree.SameShape other) :
    literalStep tree = literalStep other := by
  funext name reached
  simp only [literalStep, hShape.lookAt_eq,
    hShape.pathExists_eq]

theorem SameShape.wildStep_eq
    (hShape : tree.SameShape other) :
    wildStep tree = wildStep other := by
  funext items reached
  simp only [wildStep, namesIn, hShape.resolve_eq,
    hShape.lookAt_eq, hShape.seenAlong_eq, hShape.below_eq]

theorem SameShape.listingFault?_eq
    (hShape : tree.SameShape other) :
    tree.listingFault? = other.listingFault? := by
  funext reached
  simp only [listingFault?, hShape.resolve_eq]

theorem SameShape.findingsBelow_eq
    (hShape : tree.SameShape other) :
    findingsBelow tree = findingsBelow other := by
  have hAlong : findingsAlong tree = findingsAlong other := by
    funext wanted path location way
    simp only [findingsAlong, hShape.resolve_eq,
      hShape.seenAlong_eq, hShape.listingFault?_eq]
  funext wanted reached
  simp only [findingsBelow, hShape.resolve_eq,
    hShape.below_eq, hAlong]

/- The segments of a pattern lead the same way. -/
theorem SameShape.searchFrom_eq
    (hShape : tree.SameShape other)
    (parts : List PathSegment) :
    searchFrom tree parts = searchFrom other parts := by
  induction parts using searchFrom_induction with
  | nil =>
      funext reached
      rw [searchFrom, searchFrom]
  | literal name rest ih =>
      funext reached
      rw [searchFrom, searchFrom, hShape.literalStep_eq, ih]
  | wild items rest ih =>
      funext reached
      rw [searchFrom, searchFrom, hShape.wildStep_eq, ih]
  | depthLast =>
      funext reached
      rw [searchFrom, searchFrom, deepDirectories,
        deepDirectories, hShape.findingsBelow_eq]
  | depthTwice rest ih =>
      funext reached
      rw [searchFrom, searchFrom, ih]
  | depth part rest hPart ih =>
      funext reached
      rw [searchFrom, searchFrom, deepStep, deepStep,
        hShape.findingsBelow_eq, ih]
      · exact hPart
      · exact hPart

theorem SameShape.search_eq
    (hShape : tree.SameShape other)
    (pattern : PathPattern) :
    pattern.search tree = pattern.search other := by
  unfold PathPattern.search
  rw [hShape.searchFrom_eq, hShape.lookAt_eq]

end Tree

end SafeRerun

------------------------------------------------------------
-- Selecting
------------------------------------------------------------

namespace SafeRerun

namespace Tree

variable {tree other : Tree}

theorem SameShape.listable_eq
    (hShape : tree.SameShape other)
    (base : Text) :
    listable tree base = listable other base := by
  unfold listable
  rw [hShape.resolve_eq]
  cases other.resolve base with
  | error fault =>
      rfl
  | ok location =>
      simp only [hShape.holdsDirectory_eq]

/- The same scripts are selected, in the same order. -/
theorem SameShape.selectScripts_eq
    (hShape : tree.SameShape other)
    (base : Text)
    (settings : Settings) :
    selectScripts tree base settings =
      selectScripts other base settings := by
  unfold selectScripts matchedFiles findings
  rw [hShape.listable_eq, funext hShape.isFile_eq]
  simp only [hShape.search_eq]

end Tree

end SafeRerun
