/-!
# What a terminal shows

A text may hold control sequences, which a terminal obeys instead of showing them:
an escape character and what belongs to it.  The visible text is what is left when
they are taken out, together with every control character that is no layout.

A sequence is followed from one character to the next by the mode in which a
terminal is.  A layout character inside a sequence interrupts it and is shown,
except in the long sequences that carry a text of their own.  What an interrupted
sequence comes to is a choice: either it is over, or the next control character that
is not shown takes it up again.

## Main definitions

* `Interruption` — what an interrupted sequence comes to.
* `Mode` — what a terminal expects next.
* `Mode.shows`, `Mode.next` — what becomes of a character, and of the mode.
* `visible` — the characters of a text that are shown.
-/

namespace LossWindows.Text.Terminal

/-- What a sequence comes to that a layout character interrupts. -/
inductive Interruption
  | ends
  | pauses
deriving DecidableEq

/-- What a terminal expects next. -/
inductive Mode
  | plain
  | escape
  /-- The last character of a short sequence. -/
  | escapeEnd
  | control
  | command
  | device
  /-- That head behind its first parameter. -/
  | deviceParameters
  /-- That head behind its parameters. -/
  | deviceEnd
  | string
  /-- Characters to be shown, and then the rest of an interrupted sequence. -/
  | paused (mode : Mode)
deriving DecidableEq

/-- The layout characters: tab, newline, form feed and carriage return. -/
def isLayout (c : Char) : Bool :=
  c == '\t' || c == '\n' || c == '\x0c' || c == '\r'

/-- Whether a character is shown by a terminal that expects nothing special.  Beyond
ASCII every character is. -/
def isShown (c : Char) : Bool :=
  isLayout c || (' ' ≤ c && c != '\x7f')

/-- Whether a character ends a string.  The terminator is a single octet, and it counts
wherever it stands in the encoding of a character. -/
def endsString (c : Char) : Bool :=
  (String.utf8EncodeChar c).contains 0x9c

def between (low high c : Char) : Bool :=
  low ≤ c && c ≤ high

namespace Mode

def shows : Mode → Char → Bool
  | plain, c | paused _, c => isShown c
  | escape, c | escapeEnd, c | control, c => isLayout c
  | command, _ | device, _ | deviceParameters, _ | deviceEnd, _ | string, _ => false

/-- The mode behind a layout character inside a sequence. -/
def interrupted (mode : Mode) : Interruption → Mode
  | .ends => plain
  | .pauses => paused mode

/-- The mode that a character behind an escape character leads to. -/
def introduced (c : Char) : Mode :=
  if between ' ' '/' c then escapeEnd
  else if c = '[' then control
  else if c = ']' then command
  else if c = 'P' then device
  else if c = 'X' ∨ c = '^' ∨ c = '_' then string
  else if between '0' '~' c then plain
  else escape

/-- The mode behind a character that has no meaning of its own in every mode.  A
character beyond ASCII makes a terminal forget the sequence that was interrupted. -/
def following (how : Interruption) : Mode → Char → Mode
  | plain, _ => plain
  | escape, c => if isLayout c then interrupted escape how else introduced c
  | escapeEnd, c =>
    if isLayout c then interrupted escapeEnd how
    else if between '0' '~' c then plain
    else escapeEnd
  | control, c =>
    if isLayout c then interrupted control how
    else if between '@' '~' c then plain
    else control
  | command, c => if c = '\x07' then plain else command
  | device, c =>
    if between ' ' '/' c then deviceEnd
    else if between '0' '?' c then deviceParameters
    else if between '@' '~' c then string
    else device
  | deviceParameters, c =>
    if between ' ' '/' c then deviceEnd
    else if between '<' '~' c then string
    else deviceParameters
  | deviceEnd, c => if between '0' '~' c then string else deviceEnd
  | string, c => if endsString c then plain else string
  | paused mode, c =>
    if '\x7f' < c then plain
    else if isShown c then paused mode
    else following how mode c

/-- The mode behind a character.  An escape character starts a sequence anywhere, and
the two cancelling characters end one anywhere. -/
def next (how : Interruption) (mode : Mode) (c : Char) : Mode :=
  if c = '\x1b' then escape
  else if c = '\x18' ∨ c = '\x1a' then plain
  else following how mode c

end Mode

/-- The characters that are shown, from a given mode on. -/
def visibleFrom (how : Interruption) : Mode → List Char → List Char
  | _, [] => []
  | mode, c :: text =>
    let rest := visibleFrom how (mode.next how c) text
    if mode.shows c then c :: rest else rest

/-- The characters of a text that a terminal shows. -/
def visible (how : Interruption) (text : List Char) : List Char :=
  visibleFrom how .plain text

end LossWindows.Text.Terminal
