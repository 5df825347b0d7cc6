import RtspServer.Buffer

/-!
# Texts read line by line

A text in which each line ends in CRLF, as a reader takes it apart: `TextLines.lines`
are the lines that end in it, and `TextLines.begun` is what has begun behind the last of
them. What is put together from texts that end in CRLF is taken apart into the lines of
these (`TextLines.lines_append`).

A reader may look for blocks of lines that begin with a heading, as the media blocks of
a session description do. `TextLines.blocks` are these, each with its heading and the
lines up to the next one; what is in front of the first heading belongs to none of them.
-/

namespace TextLines

/-- The lines that end in a text, and the one that has begun then; `cur` has begun
before. -/
def scan (cur : Bytes) : Bytes → List Bytes × Bytes
  | [] => ([], cur)
  | 0x0d :: 0x0a :: rest => (cur :: (scan [] rest).1, (scan [] rest).2)
  | b :: rest => scan (cur ++ [b]) rest

/-- The lines that end in a text. -/
def lines (text : Bytes) : List Bytes := (scan [] text).1

/-- The line that has begun at the end of a text. -/
def begun (text : Bytes) : Bytes := (scan [] text).2

/-- **The end of a line is seen wherever it is**: what is behind it is read as if it
stood alone. -/
theorem scan_append_crlf (cur text rest : Bytes) : scan cur (text ++ crlf ++ rest)
    = ((scan cur (text ++ crlf)).1 ++ lines rest, begun rest) := by
  induction cur, text using scan.induct with
  | case1 cur => rfl
  | case2 cur text ih =>
    show (cur :: (scan [] (text ++ crlf ++ rest)).1, (scan [] (text ++ crlf ++ rest)).2) = _
    rw [ih]
    rfl
  | case3 cur b text hne ih =>
    have hnext : ∀ tail t, b = 0x0d → text ++ crlf ++ tail = 0x0a :: t → False := by
      intro tail t hb htext
      cases text with
      | nil => cases htext
      | cons c text =>
        obtain ⟨rfl, -⟩ := List.cons.inj htext
        exact hne text hb rfl
    have hnil := hnext []
    rw [List.append_nil] at hnil
    rw [List.cons_append, List.cons_append, scan.eq_3 _ _ _ (hnext rest), scan.eq_3 _ _ _ hnil, ih]

theorem lines_append (text rest : Bytes) :
    lines (text ++ crlf ++ rest) = lines (text ++ crlf) ++ lines rest := by
  rw [lines, scan_append_crlf]
  rfl

/-- The lines of texts that end in CRLF, one behind the other. -/
theorem lines_flatten (texts : List Bytes) (rest : Bytes) :
    lines ((texts.map (· ++ crlf)).flatten ++ rest)
      = texts.flatMap (fun t => lines (t ++ crlf)) ++ lines rest := by
  induction texts with
  | nil => rfl
  | cons t texts ih =>
    rw [List.map_cons, List.flatten_cons, List.append_assoc, lines_append, ih,
      List.flatMap_cons, List.append_assoc]

/-- A text without CR and LF is one line. -/
theorem scan_isLine {l : Bytes} (hl : IsLine l) (rest : Bytes) :
    ∀ cur, scan cur (l ++ rest) = scan (cur ++ l) rest := by
  induction l with
  | nil => exact fun cur => by rw [List.append_nil, List.nil_append]
  | cons b l ih =>
    intro cur
    obtain ⟨hb, hl⟩ := List.forall_mem_cons.mp hl
    rw [List.cons_append, scan, ih hl, List.append_assoc, List.singleton_append]
    exact fun rest h _ => hb.1 h

theorem lines_isLine {l : Bytes} (hl : IsLine l) : lines (l ++ crlf) = [l] := by
  rw [lines, scan_isLine hl]
  rfl

/-! ## Blocks of lines -/

section

variable {Heading : Bytes → Prop} [DecidablePred Heading]

/-- The lines in front of the first heading, and the blocks behind it. -/
def sections (Heading : Bytes → Prop) [DecidablePred Heading] :
    List Bytes → List Bytes × List (List Bytes)
  | [] => ([], [])
  | l :: ls =>
    let (front, blocks) := sections Heading ls
    if Heading l then ([], (l :: front) :: blocks) else (l :: front, blocks)

/-- The blocks of lines that begin with a heading. -/
def blocks (Heading : Bytes → Prop) [DecidablePred Heading] (ls : List Bytes) :
    List (List Bytes) := (sections Heading ls).2

/-- A heading and lines that are none. -/
def IsBlock (Heading : Bytes → Prop) (block : List Bytes) : Prop :=
  ∃ l ls, block = l :: ls ∧ Heading l ∧ ∀ m ∈ ls, ¬ Heading m

/-- Lines that are no headings belong to the block in front of them. -/
theorem sections_append {front : List Bytes} (h : ∀ l ∈ front, ¬ Heading l) (ls : List Bytes) :
    sections Heading (front ++ ls)
      = (front ++ (sections Heading ls).1, (sections Heading ls).2) := by
  induction front with
  | nil => rfl
  | cons l front ih =>
    obtain ⟨hl, hfront⟩ := List.forall_mem_cons.mp h
    rw [List.cons_append, sections, ih hfront]
    exact if_neg hl

/-- **Blocks that are put one behind the other are read back.** -/
theorem sections_flatten {bs : List (List Bytes)} (h : ∀ b ∈ bs, IsBlock Heading b) :
    sections Heading bs.flatten = ([], bs) := by
  induction bs with
  | nil => rfl
  | cons b bs ih =>
    obtain ⟨⟨l, ls, rfl, hl, hls⟩, hbs⟩ := List.forall_mem_cons.mp h
    rw [List.flatten_cons, List.cons_append, sections, sections_append hls, ih hbs]
    show (if Heading l then _ else _) = _
    rw [if_pos hl, List.append_nil]

theorem blocks_append {front : List Bytes} {bs : List (List Bytes)}
    (hfront : ∀ l ∈ front, ¬ Heading l) (hbs : ∀ b ∈ bs, IsBlock Heading b) :
    blocks Heading (front ++ bs.flatten) = bs := by
  rw [blocks, sections_append hfront, sections_flatten hbs]

end

end TextLines
