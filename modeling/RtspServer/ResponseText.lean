import RtspServer.Decimal

/-!
# Responses as their receivers read them

A client reads a response line by line, up to a blank line; what is behind that
is the body. It finds a header by its name and reads a number out of its value.
Nothing here depends on how the server makes the text: the responses of the
server are read back in the modules that follow.
-/

namespace ResponseText

open RtspRequest (line response)

/-- The lines of a response up to the blank one, and the body behind that, if
the text gets so far. `cur` is the line that has begun. -/
def splitHead (cur : Bytes) : Bytes → List Bytes × Option Bytes
  | [] => ([], none)
  | 0x0d :: 0x0a :: rest =>
    if cur = [] then ([], some rest)
    else (cur :: (splitHead [] rest).1, (splitHead [] rest).2)
  | b :: rest => splitHead (cur ++ [b]) rest

/-- The lines of a response, the status line first. -/
def headLines (message : Bytes) : List Bytes := (splitHead [] message).1

/-- What is behind the blank line. -/
def body (message : Bytes) : Option Bytes := (splitHead [] message).2

/-- The value of the first header with a name. -/
def header (name : Bytes) (lines : List Bytes) : Option Bytes :=
  lines.findSome? fun l =>
    if name ++ ascii ": " <+: l then some (l.drop (name ++ ascii ": ").length) else none

/-- A value that is a decimal number. -/
def number (value : Bytes) : Option ℕ :=
  if Scanf.IsNumeral value then some (Scanf.decimalValue value) else none

/-- **The number that a response gives in a header.** -/
def headerNumber (name message : Bytes) : Option ℕ :=
  (header name (headLines message)).bind number

/-- **A response carries a text as its body**: it is what is behind the blank
line, and the Content-Length is the number of its bytes. -/
def CarriesBody (message text : Bytes) : Prop :=
  body message = some text ∧ headerNumber (ascii "Content-Length") message = some text.length

/-! ## Reading lines -/

theorem splitHead_isLine {l : Bytes} (hl : IsLine l) (rest : Bytes) :
    ∀ cur, splitHead cur (l ++ rest) = splitHead (cur ++ l) rest := by
  induction l with
  | nil => exact fun cur => by rw [List.append_nil, List.nil_append]
  | cons b l ih =>
    intro cur
    obtain ⟨hb, hl⟩ := List.forall_mem_cons.mp hl
    rw [List.cons_append, splitHead, ih hl, List.append_assoc, List.singleton_append]
    exact fun rest h _ => hb.1 h

/-- A line that is not blank is read. -/
theorem splitHead_line {l : Bytes} (hl : IsLine l) (hne : l ≠ []) (rest : Bytes) :
    splitHead [] (line l ++ rest) = (l :: (splitHead [] rest).1, (splitHead [] rest).2) := by
  unfold line
  rw [List.append_assoc, splitHead_isLine hl, List.nil_append]
  exact if_neg hne

theorem splitHead_lines {lines : List Bytes} (h : ∀ l ∈ lines, IsLine l ∧ l ≠ []) (rest : Bytes) :
    splitHead [] ((lines.map line).flatten ++ (crlf ++ rest)) = (lines, some rest) := by
  induction lines with
  | nil => rfl
  | cons l lines ih =>
    obtain ⟨⟨hl, hne⟩, h⟩ := List.forall_mem_cons.mp h
    rw [List.map_cons, List.flatten_cons, List.append_assoc, splitHead_line hl hne, ih h]

/-- **A response is read back**: its status line and headers, and the body. -/
theorem splitHead_response {status : String} {headers : List Bytes}
    (hstatus : IsLine (ascii ("RTSP/1.0 " ++ status)) ∧ ascii ("RTSP/1.0 " ++ status) ≠ [])
    (h : ∀ l ∈ headers, IsLine l ∧ l ≠ []) (body : Bytes) :
    splitHead [] (response status headers ++ body)
      = (ascii ("RTSP/1.0 " ++ status) :: headers, some body) := by
  unfold response
  rw [List.append_assoc, List.append_assoc, splitHead_line hstatus.1 hstatus.2, splitHead_lines h]

/-! ## Reading headers -/

/-- A line that is no header of that name is passed over. -/
theorem header_cons_of_not {name l : Bytes} (h : ¬ name ++ ascii ": " <+: l) (lines : List Bytes) :
    header name (l :: lines) = header name lines := by
  unfold header
  rw [List.findSome?_cons_of_isNone]
  rw [if_neg h]
  rfl

/-- A line begins with neither of two texts that differ. -/
theorem not_prefix_append {name other : Bytes} (h : ¬ name <+: other ∧ ¬ other <+: name)
    (value : Bytes) : ¬ name <+: other ++ value := fun hprefix =>
  (List.prefix_or_prefix_of_prefix hprefix (List.prefix_append other value)).elim h.1 h.2

/-- The value of a header that comes first. -/
theorem header_cons (name value : Bytes) (lines : List Bytes) :
    header name ((name ++ ascii ": " ++ value) :: lines) = some value := by
  unfold header
  have hfirst : (if name ++ ascii ": " <+: name ++ ascii ": " ++ value then
      some ((name ++ ascii ": " ++ value).drop (name ++ ascii ": ").length) else none)
      = some value := by
    rw [if_pos (List.prefix_append _ _), List.drop_left]
  rw [List.findSome?_cons_of_isSome, hfirst]
  rw [hfirst]
  rfl

/-- A printed number is read back. -/
theorem number_decimal (n : ℕ) : number (RtspRequest.decimal n) = some n := by
  unfold number
  rw [if_pos (Scanf.isNumeral_decimal n), Scanf.decimalValue_decimal]

theorem isLine_decimal (n : ℕ) : IsLine (RtspRequest.decimal n) := by
  intro b hb
  have hdigit := Scanf.isDigit_of_mem_decimal hb
  constructor
  · rintro rfl
    cases hdigit
  · rintro rfl
    cases hdigit

end ResponseText
