import SafeRerun.Text.Basic

/-
  Lines of a script, each kept with the characters that end
  it.

  Key definitions include:
    * `SafeRerun.LineEnd`
    * `SafeRerun.lineEnd`
    * `SafeRerun.Text.splitLines`

  Key theorems include:
    * `SafeRerun.Text.flatten_splitLines`
    * `SafeRerun.Text.ne_nil_of_mem_splitLines`

  A line ends with a line feed, or at the end of the text.
  A carriage return before the line feed belongs to the
  line; on its own it ends nothing.
-/

------------------------------------------------------------
-- Line Ends
------------------------------------------------------------

namespace SafeRerun

/- The ways a line can end. -/
inductive LineEnd where
  | absent
  | lineFeed
  | returnLineFeed
  deriving DecidableEq, Repr

/- The characters of a line end. -/
def LineEnd.text :
    LineEnd → Text
  | .absent => []
  | .lineFeed => ['\n']
  | .returnLineFeed => ['\r', '\n']

/- How a line ends. -/
def lineEnd
    (line : Text) :
    LineEnd :=
  match line.reverse with
  | '\n' :: '\r' :: _ => .returnLineFeed
  | '\n' :: _ => .lineFeed
  | _ => .absent

end SafeRerun

------------------------------------------------------------
-- Splitting
------------------------------------------------------------

namespace SafeRerun

namespace Text

/-
  The lines of a text, in order.  Only the last one can lack
  its line feed, and an empty text has no line.
-/
def splitLines :
    Text → List Text
  | [] => []
  | c :: rest =>
      if c = '\n' then
        [c] :: splitLines rest
      else
        match splitLines rest with
        | [] => [[c]]
        | line :: lines => (c :: line) :: lines

/- The lines of a text put together are the text. -/
theorem flatten_splitLines
    (t : Text) :
    (splitLines t).flatten = t := by
  induction t with
  | nil =>
      rfl
  | cons c rest ih =>
      unfold splitLines
      by_cases hFeed : c = '\n'
      · simp [hFeed, ih]
      · cases hLines : splitLines rest with
        | nil =>
            simp [hLines] at ih
            simp [hFeed, ih]
        | cons line lines =>
            simp [hLines] at ih
            simp [hFeed, ih]

/- No line is empty. -/
theorem ne_nil_of_mem_splitLines
    (t : Text)
    (line : Text)
    (hMem : line ∈ splitLines t) :
    line ≠ [] := by
  induction t generalizing line with
  | nil =>
      simp [splitLines] at hMem
  | cons c rest ih =>
      unfold splitLines at hMem
      by_cases hFeed : c = '\n'
      · simp [hFeed] at hMem
        rcases hMem with rfl | hRest
        · simp
        · exact ih line hRest
      · cases hLines : splitLines rest with
        | nil =>
            simp [hFeed, hLines] at hMem
            simp [hMem]
        | cons first lines =>
            simp [hFeed, hLines] at hMem
            rcases hMem with rfl | hRest
            · simp
            · exact ih line (by simp [hLines, hRest])

end Text

end SafeRerun
