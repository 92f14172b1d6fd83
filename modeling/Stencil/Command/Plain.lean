/-
Texts freed of what controls a terminal.

Messages about a wrong command line repeat arguments as they were given,
and an argument must not move the cursor or change colours. A control
sequence, from its escape character to the character that ends it, is
left out, and so is every other control character that is not white
space.

White space inside a sequence shows, and so does what follows it, up to
the next control character, which takes the sequence up where it was
left; a character beyond ASCII that shows ends the sequence for good.
The main statements: what is left holds no control characters but white
space, and a text without control characters is left as it is.
-/
import Stencil.Text.Basic

namespace Stencil.Command

/-- Where a control sequence has been read to. -/
inductive Control where
  /-- There is none. -/
  | outside
  /-- To its escape character. -/
  | escape
  /-- To a character that wants another one behind it. -/
  | intermediate
  /-- Into the parameters, which a letter or the like ends. -/
  | parameters
  /-- Into a string that a bell ends. -/
  | title
  /-- To the beginning of a string for the device. -/
  | device
  /-- Into the parameters of a string for the device. -/
  | deviceParameters
  /-- To a character behind them that wants another one behind it. -/
  | deviceIntermediate
  /-- Into a string that only a string terminator ends. -/
  | string
deriving DecidableEq, Repr

namespace Control

-- ========================================================= characters

/-- Whether this is a control character of the ASCII set. -/
def isControl (c : Char) : Bool := c < ' ' || c == '\x7f'

/-- Whether this is a control character that counts as white space. -/
def isBlankControl (c : Char) : Bool :=
  c == '\t' || c == '\n' || c == '\x0c' || c == '\r'

/-- Whether a character ends a string. The string terminator of one byte
does, in whichever character's UTF-8 form it is met. -/
def isTerminator (c : Char) : Bool :=
  (String.utf8EncodeChar c).contains 0x9c

-- ========================================================== sequences

/-- Where the reading is behind the character that follows the escape
character. -/
def afterEscape (c : Char) : Control :=
  if c = '[' then parameters
  else if c = ']' then title
  else if c = 'P' then device
  else if c = 'X' ∨ c = '^' ∨ c = '_' then string
  else if ' ' ≤ c ∧ c ≤ '/' then intermediate
  else if '0' ≤ c ∧ c ≤ '~' then outside
  else escape

/-- Where the reading is behind a character of what comes before the
string for a device. -/
def inDevice (state : Control) (c : Char) : Control :=
  if ' ' ≤ c ∧ c ≤ '/' then deviceIntermediate
  else if '@' ≤ c ∧ c ≤ '~' then string
  else if '0' ≤ c ∧ c ≤ '?' then
    match state with
    | device => deviceParameters
    | deviceParameters => if c < '<' then deviceParameters else string
    | _ => string
  else state

/-- Where the reading is behind a character. -/
def next (state : Control) (c : Char) : Control :=
  if c = '\x1b' then escape
  else if c = '\x18' ∨ c = '\x1a' then outside
  else
    match state with
    | outside => outside
    | escape => afterEscape c
    | intermediate => if '0' ≤ c ∧ c ≤ '~' then outside else intermediate
    | parameters => if '@' ≤ c ∧ c ≤ '~' then outside else parameters
    | title => if c = '\x07' then outside else title
    | string => if isTerminator c then outside else string
    | device => inDevice device c
    | deviceParameters => inDevice deviceParameters c
    | deviceIntermediate => inDevice deviceIntermediate c

/-- Whether a character shows that is met there. -/
def shows : Control → Char → Bool
  | outside, c => isBlankControl c || !isControl c
  | escape, c => isBlankControl c
  | intermediate, c => isBlankControl c
  | parameters, c => isBlankControl c
  | _, _ => false

/-- No control character shows but white space. -/
theorem isBlankControl_of_shows {state : Control} {c : Char}
    (hs : state.shows c = true) (hc : isControl c = true) :
    isBlankControl c = true := by
  cases state <;> simp_all [shows]

end Control

-- ========================================================== plain text

/-- What is left of a text that is met inside or outside a control
sequence; `showing` says that the character before is left, too. -/
def plainFrom (showing : Bool) (state : Control) : Text → Text
  | [] => []
  | c :: t =>
    if showing && Control.outside.shows c then
      c :: plainFrom true (if c ≤ '\x7f' then state else .outside) t
    else if state.shows c then c :: plainFrom true (state.next c) t
    else plainFrom false (state.next c) t

/-- A text without what controls a terminal. -/
def plain (t : Text) : Text := plainFrom false .outside t

/-- A control character that is left is white space. -/
theorem isBlankControl_of_mem_plain {t : Text} {c : Char}
    (h : c ∈ plain t) (hc : Control.isControl c = true) :
    Control.isBlankControl c = true := by
  unfold plain at h
  generalize false = showing at h
  generalize Control.outside = state at h
  induction t generalizing showing state with
  | nil => simp [plainFrom] at h
  | cons d t ih =>
    unfold plainFrom at h
    split at h
    · next hs =>
      rcases List.mem_cons.1 h with rfl | h
      · exact Control.isBlankControl_of_shows
          (Bool.and_eq_true_iff.1 hs).2 hc
      · exact ih _ _ h
    · split at h
      · next hs =>
        rcases List.mem_cons.1 h with rfl | h
        · exact Control.isBlankControl_of_shows hs hc
        · exact ih _ _ h
      · exact ih _ _ h

/-- A text without control characters is left as it is. -/
theorem plain_eq_self {t : Text}
    (h : ∀ c ∈ t, Control.isControl c = false) : plain t = t := by
  unfold plain
  generalize false = showing
  induction t generalizing showing with
  | nil => rfl
  | cons c t ih =>
    have hc := h c (by simp)
    have ht := fun showing => ih (fun d hd => h d (by simp [hd])) showing
    have hs : Control.outside.shows c = true := by simp [Control.shows, hc]
    have hn : Control.outside.next c = .outside := by
      have hlow : c ≠ '\x1b' := by rintro rfl; exact absurd hc (by decide)
      simp [Control.next, hlow]
    simp [plainFrom, hs, hn, ht]

end Stencil.Command
