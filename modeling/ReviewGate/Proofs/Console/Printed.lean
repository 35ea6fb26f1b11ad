import ReviewGate.Proofs.Console.Plain

/-!
# Printed lines

A report is a list of rows, and each row is printed as a line of its own (`render_eq_printed`).
What a line is can be told from what is printed. It may have a label in front
(`label_printed_bare`) and an ending behind (`ending_printed_bare`), or it is a headline: a sign in
a style of its own, a path, and a word about the path (`Mark.heads_headline`).

The label, the sign and the word have to be plain, while a path and other parts of a line may hold
any characters, newlines among them: a line is what is printed at a time. Colour puts escape
sequences around the pieces that have a style, so a sign is looked for as it is painted.
-/

set_option autoImplicit false

namespace ReviewGate.Console

/-- A row as it is printed, without the newline behind it. -/
def printed (widths : Widths) (colour : Bool) (row : Row) : Text :=
  renderPieces widths colour 0 row

variable {widths : Widths}

/-- Rows are printed as lines, each with a newline behind it. -/
theorem render_eq_printed (colour : Bool) (rows : List Row) :
    render widths colour rows = (rows.map (printed widths colour)).flatMap (· ++ ['\n']) := by
  rw [List.flatMap_map]
  rfl

theorem renderPieces_cons (colour : Bool) (column : Nat) (piece : Piece) (more : List Piece) :
    renderPieces widths colour column (piece :: more) =
      paint colour piece.style (cleanText widths column piece.text).1 ++
        renderPieces widths colour (cleanText widths column piece.text).2 more := rfl

theorem printed_bare (colour : Bool) (text : Text) :
    printed widths colour [bare text] = (cleanText widths 0 text).1 :=
  List.append_nil _

/-- A line of one plain piece is printed as its text is painted. -/
theorem printed_styled {text : Text} (plain : text.all isPlain = true) (colour : Bool)
    (style : Style) :
    printed widths colour [styled style text] = paint colour (some style) text := by
  rw [printed, renderPieces_cons, styled, cleanText_plain plain]
  exact List.append_nil _

/-- A plain label in front of a line is printed there. -/
theorem label_printed_bare {label : Text} (plain : label.all isPlain = true) (colour : Bool)
    (rest : Text) : label <+: printed widths colour [bare (label ++ rest)] := by
  rw [printed_bare, cleanText_append, cleanText_plain plain]
  exact List.prefix_append _ _

/-- A plain ending behind a line is printed there. -/
theorem ending_printed_bare {ending : Text} (plain : ending.all isPlain = true) (colour : Bool)
    (front : Text) : ending <:+ printed widths colour [bare (front ++ ending)] := by
  rw [printed_bare, cleanText_append, cleanText_plain plain]
  exact List.suffix_append _ _

/-! ## Headlines -/

/-- What tells a headline: the sign in front, in its style, and the word about the path. -/
structure Mark where
  style : Style
  sign : Text
  word : Text
  deriving DecidableEq, Repr

/-- A printed line begins with the sign of a mark and has its word. -/
def Mark.heads (mark : Mark) (colour : Bool) (line : Text) : Bool :=
  (paint colour (some mark.style) mark.sign).isPrefixOf line && Text.occurs mark.word line

theorem infix_paint (colour : Bool) (style : Option Style) (text : Text) :
    text <:+: paint colour style text := by
  unfold paint
  split
  · split
    · exact List.infix_append _ _ _
    · exact List.infix_rfl
  · exact List.infix_rfl

/-- **A headline is told by its mark**, whatever the path. -/
theorem Mark.heads_headline (mark : Mark) (plainSign : mark.sign.all isPlain = true)
    (plainWord : mark.word.all isPlain = true) (colour : Bool) (path rest : Text) (style : Style) :
    mark.heads colour (printed widths colour
      [styled mark.style mark.sign, bare path, styled style (mark.word ++ rest)]) = true := by
  rw [Mark.heads, Bool.and_eq_true, List.isPrefixOf_iff_prefix, Text.occurs_iff]
  constructor
  · rw [printed, renderPieces_cons, styled, cleanText_plain plainSign]
    exact List.prefix_append _ _
  · rw [printed, renderPieces_cons, renderPieces_cons, renderPieces_cons]
    generalize (cleanText widths _ (bare path).text).2 = column
    have shown : mark.word <+: (cleanText widths column (mark.word ++ rest)).1 := by
      rw [cleanText_append, cleanText_plain plainWord]
      exact List.prefix_append _ _
    have painted := shown.isInfix.trans (infix_paint colour (some style) _)
    exact ((painted.trans (List.infix_append_left ..)).trans (List.infix_append_right ..)).trans
      (List.infix_append_right ..)

end ReviewGate.Console
