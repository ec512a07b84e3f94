import Floorplan.Text.Cluster
import Floorplan.Text.Width.Table

set_option autoImplicit false

/-! # Widths

How many cells of a screen a text takes. A character takes one cell, an East Asian wide one two and a
mark none, unless it joins what follows it: letters can form a ligature, and pictures can be built from
several. So a text is measured from its end, and every character meets what stands behind it, of which
`Ahead` keeps as much as matters. A character that completes a ligature can give back a cell that the
characters behind it had taken.

Main statement: a line of printable ASCII is as wide as it is long (`width_ascii`). -/

namespace Floorplan.Text

/-- The last part of a ligature, which the letters before it can complete. -/
inductive Ending where
  | alef
  | lamed
  | ya
  | iYa
  | consonant
  | tiedConsonant
  | tone
  | orkhonI
  | subscript
  deriving DecidableEq, Repr

/-- What stands behind a character, as far as it can change how wide the character is. Where it says
that something is joined, a zero width joiner stands in front. -/
inductive Context where
  | plain
  | lineFeed
  | skinTone
  | picture
  /-- One regional indicator. -/
  | indicator
  /-- Several regional indicators. -/
  | indicators
  | joinedPicture
  /-- A keycap behind which a picture is joined. -/
  | joinedKeycap
  /-- One regional indicator behind which a picture is joined. -/
  | joinedIndicator
  /-- Several regional indicators behind which a picture is joined. -/
  | joinedFlags (even : Bool)
  /-- The end of the tags of a flag, and how many letters and digits before it. -/
  | joinedTags (letters digits : Nat)
  | ending (e : Ending) (joined : Bool)
  deriving DecidableEq, Repr

/-- What stands behind a character, and the selectors between them. -/
structure Ahead where
  context : Context := .plain
  /-- Is there a selector that asks for a picture? -/
  picture : Bool := false
  /-- Is there a selector that asks for text? -/
  text : Bool := false
  deriving DecidableEq, Repr

namespace Ahead

/-- With the selector of a picture in front. A ligature goes through it, and so does a joiner. -/
def selectPicture (a : Ahead) : Ahead :=
  match a.context with
  | .ending .. | .joinedPicture | .joinedKeycap => { a with picture := true }
  | _ => { picture := true }

/-- With the selector of text in front. -/
def selectText (a : Ahead) : Ahead :=
  match a.context with
  | .ending .. => { a with text := true }
  | _ => { text := true }

/-- What is left when the character before the selector of a picture has no picture. -/
def dropPicture (a : Ahead) : Ahead :=
  match a.context with
  | .ending .. => { a with picture := false }
  | _ => if a.picture then {} else a

end Ahead

/-! ## Single characters -/

/-- The width of a character that stands alone. Controls have one, as they are shown as something. -/
def charWidth (c : Char) : Nat :=
  if c = '\u17D8' then 3
  else if noWidthTable.contains c.toNat then 0
  else if wideTable.contains c.toNat then 2
  else 1

/-- The selector that asks for a picture. -/
def pictureSelector : Char := '\uFE0F'

/-- The selector that asks for text. -/
def textSelector : Char := '\uFE0E'

/-- The zero width joiner. -/
def joiner : Char := '\u200D'

/-- Is the character a skin tone? -/
def isSkinTone (c : Char) : Bool := within 0x1F3FB 0x1F3FF c.toNat

/-- Is the character a regional indicator? -/
def isIndicator (c : Char) : Bool := within 0x1F1E6 0x1F1FF c.toNat

/-- Is the character a picture that can be shown as text? Enclosed ideographs stay as wide as they
are. -/
def hasTextForm (c : Char) : Bool :=
  selectableTable.contains c.toNat && pictureTable.contains c.toNat && !within 0x1F200 0x1F2FF c.toNat

/-- Is the character a Tifinagh consonant? -/
def isTifinagh (c : Char) : Bool := within 0x2D31 0x2D65 c.toNat || c = '\u2D6F'

/-- Is the character a form of lam? -/
def isLam (c : Char) : Bool :=
  c = '\u0644' || within 0x06B5 0x06B8 c.toNat || c = '\u076A' || c = '\u08A6' || c = '\u08C7'

/-- Can the character stand between lam and alef? -/
def isTransparent (c : Char) : Bool := charWidth c = 0 && !opaqueTable.contains c.toNat

/-- What a character is for those before it. -/
def contextOf (c : Char) : Context :=
  if c = '\u05DC' then .ending .lamed false
  else if alefTable.contains c.toNat then .ending .alef false
  else if subscriptTable.contains c.toNat then .ending .subscript false
  else if c = '\u1A10' then .ending .ya false
  else if isTifinagh c then .ending .consonant false
  else if within 0xA4FC 0xA4FD c.toNat then .ending .tone false
  else if c.toNat = 0x10C03 then .ending .orkhonI false
  else if isIndicator c then .indicator
  else if isSkinTone c then .skinTone
  else if pictureTable.contains c.toNat then .picture
  else .plain

/-! ## Ligatures -/

/-- What a letter adds to the end of a ligature, and what the two are together. -/
def completes? (c : Char) (joined : Bool) : Ending → Option (Int × Context)
  | .alef =>
    if isLam c then some (0, .plain)
    else if isTransparent c then some (0, .ending .alef false)
    else none
  | .lamed => if joined && c = '\u05D0' then some (0, .plain) else none
  | .ya => if joined && c = '\u1A17' then some (0, .ending .iYa true) else none
  | .iYa => if c = '\u1A15' then some (0, .plain) else none
  | .consonant =>
    if c = '\u2D7F' then some (1, .ending .tiedConsonant true)
    else if joined && isTifinagh c then some (0, .plain)
    else none
  -- The sign between the consonants was counted and is not seen.
  | .tiedConsonant => if isTifinagh c then some (-1, .plain) else none
  | .tone => if within 0xA4F8 0xA4FB c.toNat then some (0, .plain) else none
  | .orkhonI => if joined && c.toNat = 0x10C32 then some (0, .plain) else none
  -- A letter below the one before it was counted and takes no cell.
  | .subscript => if c = '\u17D2' then some (-1, .plain) else none

/-- What a character adds to the end of a ligature. Joiners and invisible marks change nothing, save
that alef has marks of its own. -/
def ligature? (c : Char) (e : Ending) (joined : Bool) : Option (Int × Context) :=
  if e ≠ .alef && c = joiner then some (0, .ending e true)
  else if e ≠ .alef && ligatureMarkTable.contains c.toNat then some (0, .ending e joined)
  else completes? c joined e

/-! ## Pictures built from several -/

/-- What a character adds in front of a picture or of a part of one, if the two belong together. -/
def compose? (c : Char) : Context → Option (Int × Context)
  | .skinTone =>
    if modifierBaseTable.contains c.toNat then some (0, .picture)
    else if c = joiner then some (0, .joinedPicture)
    else none
  | .picture => if c = joiner then some (0, .joinedPicture) else none
  | .indicator => if isIndicator c then some (1, .indicators) else none
  | .indicators =>
    if isIndicator c then some (1, .indicators)
    else if c = joiner then some (0, .joinedPicture)
    else none
  | .joinedPicture =>
    if c = '\u20E3' then some (0, .joinedKeycap)
    else if isIndicator c then some (1, .joinedIndicator)
    else if isSkinTone c then some (0, .skinTone)
    else if c.toNat = 0xE007F then some (0, .joinedTags 0 0)
    else if pictureTable.contains c.toNat then some (0, .picture)
    else none
  | .joinedIndicator => if isIndicator c then some (-1, .joinedFlags true) else none
  | .joinedFlags even =>
    -- Flags are paired from the left: with an odd number the first two are one flag on their own.
    if isIndicator c then some (if even then 3 else -1, .joinedFlags !even)
    else if c = joiner then some (0, .joinedPicture)
    else none
  | .joinedTags letters digits =>
    if within 0xE0061 0xE007A c.toNat && digits = 0 && letters < 6 then
      some (0, .joinedTags (letters + 1) 0)
    else if within 0xE0030 0xE0039 c.toNat && digits < 3 && (letters ≤ 4 || 0 < digits) then
      some (0, .joinedTags letters (digits + 1))
    else if c.toNat = 0x1F3F4 && (digits = 3 || (digits = 0 && 3 ≤ letters)) then some (0, .picture)
    else none
  | _ => none

/-! ## Texts -/

/-- What a character adds to what stands behind it, if no selector does. -/
def joins? (c : Char) : Context → Option (Int × Context)
  | .ending e joined => ligature? c e joined
  | context => compose? c context

/-- What a character without the selector of a picture adds to what stands behind it. -/
def stepAsIs (c : Char) (a : Ahead) : Int × Ahead :=
  if c.toNat ≤ 0xA0 then
    if c = '\n' then (1, { context := .lineFeed })
    else (if c = '\r' && a.context = .lineFeed then 0 else 1, {})
  else if c = pictureSelector then (0, a.selectPicture)
  else if c = textSelector then (0, a.selectText)
  else if a.text && hasTextForm c then (1, {})
  else
    let (added, context) := (joins? c a.context).getD (charWidth c, contextOf c)
    (added, { context })

/-- How many cells a character adds to what stands behind it, and what stands behind the character
before it. -/
def step (c : Char) (a : Ahead) : Int × Ahead :=
  if a.picture && selectableTable.contains c.toNat then
    (if a.context = .joinedPicture || a.context = .joinedKeycap then 0 else 2, { context := .picture })
  else stepAsIs c a.dropPicture

/-- The width of a text, and what it is for a character before it. -/
def measure : List Char → Int × Ahead
  | [] => (0, {})
  | c :: rest =>
    let (total, ahead) := measure rest
    let (added, now) := step c ahead
    (total + added, now)

/-- The width of a text in cells. -/
def width (s : List Char) : Nat := (measure s).1.toNat

theorem measure_ascii {s : List Char} (h : ∀ c ∈ s, 0x20 ≤ c.toNat ∧ c.toNat ≤ 0x7E) :
    measure s = ((s.length : Int), {}) := by
  induction s with
  | nil => rfl
  | cons c rest ih =>
    obtain ⟨hlow, hhigh⟩ := h c (List.mem_cons_self ..)
    have hfeed : c ≠ '\n' := by rintro rfl; exact absurd hlow (by decide)
    have hreturn : c ≠ '\r' := by rintro rfl; exact absurd hlow (by decide)
    have hle : c.toNat ≤ 0xA0 := by omega
    rw [measure, ih fun d hd => h d (List.mem_cons_of_mem _ hd)]
    simp [step, stepAsIs, Ahead.dropPicture, hle, hfeed, hreturn]

/-- A line of printable ASCII is as wide as it is long. -/
theorem width_ascii {s : List Char} (h : ∀ c ∈ s, 0x20 ≤ c.toNat ∧ c.toNat ≤ 0x7E) :
    width s = s.length := by
  rw [width, measure_ascii h]
  rfl

end Floorplan.Text
