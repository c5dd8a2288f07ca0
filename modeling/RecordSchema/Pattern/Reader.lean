import RecordSchema.Pattern.Flaw
import RecordSchema.Pattern.Width
import RecordSchema.Text.CharacterName
import RecordSchema.Text.Identifier
import RecordSchema.Text.Integer

/-!
# Reading patterns

The text of a pattern is cut into tokens, a backslash going with the character after it, and the
tokens are read by recursive descent. What is read depends on what came before it: which groups are
open, which are closed, and whether the reader is inside a look-behind.
-/

namespace RecordSchema.Pattern

/-- A character, or a backslash with the character after it, and where it starts. -/
structure Token where
  text : List Point
  offset : Nat
  deriving DecidableEq, Repr

/-- The tokens of a text that starts at an offset. Only the last one can be a lone backslash. -/
def tokens (offset : Nat) : List Point → List Token
  | [] => []
  | '\\' :: c :: rest => ⟨[.char '\\', c], offset⟩ :: tokens (offset + 2) rest
  | c :: rest => ⟨[c], offset⟩ :: tokens (offset + 1) rest

/-- The state of a reader. -/
structure ReadState where
  /-- The whole pattern. -/
  source : List Point
  rest : List Token
  flags : Flags
  /-- The numbers of the named groups. -/
  names : List (Text × Nat)
  /-- The number of the next group. -/
  groups : Nat
  /-- The widths of the closed groups. -/
  widths : GroupWidths
  /-- The number of the first group that is opened inside the look-behind being read. -/
  lookbehindGroups? : Option Nat
  /-- The groups that conditions ask for by number, and where. -/
  tested : List (Nat × Nat)

/-- A step of reading. -/
abbrev Reader := StateT ReadState (Except Fault)

namespace Reader

/-- The greatest number of repetitions, which stands for any number. -/
def unlimited : Nat := 4294967295

/-- The number of groups that a pattern stays below. -/
def groupLimit : Nat := 1073741823

def refuseAt {α : Type} (offset : Nat) (flaw : Flaw) : Reader α := do
  throw (.flaw flaw (some (Place.ofOffset (← get).source offset)))

/-- Where the next token starts. -/
def offset : Reader Nat := do
  let state ← get
  match state.rest with
  | token :: _ => return token.offset
  | [] => return state.source.length

/-- Refuses the pattern for a flaw some characters before the next token. -/
def refuse {α : Type} (flaw : Flaw) (back : Nat) : Reader α := do
  refuseAt ((← offset) - back) flaw

/-- The text of the next token, empty at the end. -/
def peek : Reader (List Point) := do
  match (← get).rest with
  | token :: _ => return token.text
  | [] => return []

/-- Refuses the pattern when the next token is a lone backslash. -/
def settle : Reader Unit := do
  match (← get).rest with
  | ⟨['\\'], offset⟩ :: _ => refuseAt offset .unfinishedEscape
  | _ => return ()

def advance : Reader Unit := do
  modify fun state => { state with rest := state.rest.tail }
  settle

/-- The text of the next token, which is passed. -/
def take : Reader (List Point) := do
  let text ← peek
  advance
  return text

/-- Passes the next token when it is the given character. -/
def accept (c : Char) : Reader Bool := do
  if (← peek) = [.char c] then
    advance
    return true
  else
    return false

/-- At most `n` characters of a class. -/
def takeUpTo (p : Point → Bool) : Nat → Reader (List Point)
  | 0 => return []
  | n + 1 => do
    match ← peek with
    | [c] =>
      if p c then
        advance
        return c :: (← takeUpTo p n)
      else return []
    | _ => return []

/-- The characters before a terminator, which is passed; there must be some. -/
def takeUntil (terminator : Char) (what : String) : Nat → List Point → Reader (List Point)
  | 0, soFar => return soFar
  | fuel + 1, soFar => do
    let text ← take
    if text = [] then
      if soFar = [] then refuse (.missingName what) 0
      else refuse (.unterminatedName terminator) soFar.length
    else if text = [.char terminator] then
      if soFar = [] then refuse (.missingName what) 1
      else return soFar
    else takeUntil terminator what fuel (soFar ++ text)

/-- A name up to a terminator. -/
def name (terminator : Char) (what : String) : Reader (List Point) := do
  takeUntil terminator what ((← get).rest.length + 1) []

/-- Refuses a group name that is not an identifier. -/
def checkName (cs : List Point) : Reader Unit := do
  if Text.isIdentifier cs then return ()
  else refuse (.badGroupName (Text.ofList cs)) (cs.length + 1)

def isOctal (c : Point) : Bool :=
  c.satisfies fun c => '0' ≤ c && c ≤ '7'

/-- The value of a hexadecimal digit. -/
def hexValue (c : Point) : Nat :=
  if c.toNat ≤ 57 then c.toNat - 48
  else if 97 ≤ c.toNat then c.toNat - 87
  else c.toNat - 55

def isDigit (c : Point) : Bool :=
  c.satisfies Char.isDigit

def isHex (c : Point) : Bool :=
  c.satisfies fun c => c.isDigit || ('a' ≤ c && c ≤ 'f') || ('A' ≤ c && c ≤ 'F')

/-- The number that digits denote in a base. -/
def numberIn (base : Nat) (cs : List Point) : Nat :=
  cs.foldl (fun n c => base * n + hexValue c) 0

def isAsciiLetter (c : Point) : Bool :=
  c.satisfies Char.isAlpha

/-- A code point in hexadecimal digits, of which there must be `width`. -/
def hexEscape (escape : List Point) (width : Nat) : Reader Nat := do
  let digits ← takeUpTo isHex width
  let written := escape ++ digits
  if digits.length < width then
    refuse (.incompleteEscape (Text.ofList written)) written.length
  else if 0x10FFFF < numberIn 16 digits then
    refuse (.badEscape (Text.ofList written)) written.length
  else return numberIn 16 digits

/-- A character by its name. A name with half of a pair in it cannot be looked up at all. -/
def namedEscape : Reader Nat := do
  if ← accept '\x7b' then
    let cs ← name '\x7d' "character name"
    match (Text.ofList cs).string? with
    | none => refuse (.badEscape "\\N") 2
    | some known =>
      match Text.namedCharacter? known.toList with
      | some n => return n
      | none => refuse (.unknownCharacter (Text.ofList cs)) (cs.length + 4)
  else refuse .missingBrace 0

/-- A code point in octal digits, at most the greatest one of a byte. -/
def octalEscape (escape digits : List Point) : Reader Nat := do
  let written := escape ++ digits
  let n := numberIn 8 (written.drop 1)
  if 0o377 < n then refuse (.octalTooLarge (Text.ofList written)) written.length
  else return n

/-- The code points of the escapes that stand for control characters. -/
def controlEscape? : Point → Option Nat
  | 'a' => some 7
  | 'b' => some 8
  | 't' => some 9
  | 'n' => some 10
  | 'v' => some 11
  | 'f' => some 12
  | 'r' => some 13
  | '\\' => some 92
  | _ => none

/-- The classes that escapes name; a capital letter names the complement. -/
def categoryEscape? : Point → Option (Category × Bool)
  | 'd' => some (.digit, false)
  | 'D' => some (.digit, true)
  | 's' => some (.space, false)
  | 'S' => some (.space, true)
  | 'w' => some (.word, false)
  | 'W' => some (.word, true)
  | _ => none

def anchorEscape? : Point → Option Anchor
  | 'A' => some .textStart
  | 'Z' => some .textEnd
  | 'b' => some .boundary
  | 'B' => some .nonBoundary
  | _ => none

/-- The code point of an escape that is the same inside and outside of sets. -/
def sharedEscape (c : Point) : Reader Nat := do
  if c = .char 'x' then hexEscape [.char '\\', c] 2
  else if c = .char 'u' then hexEscape [.char '\\', c] 4
  else if c = .char 'U' then hexEscape [.char '\\', c] 8
  else if c = .char 'N' then namedEscape
  else if isAsciiLetter c || isDigit c then refuse (.badEscape (Text.ofList [.char '\\', c])) 2
  else return c.toNat

/-- A member of a set, from its first token. -/
def setMember (text : List Point) : Reader SetItem := do
  match text with
  | ['\\', c] =>
    match controlEscape? c, categoryEscape? c with
    | some n, _ => return .code n
    | none, some (category, negated) => return .category category negated
    | none, none =>
      if isOctal c then return .code (← octalEscape text (← takeUpTo isOctal 2))
      else return .code (← sharedEscape c)
  | c :: _ => return .code c.toNat
  | [] => return .code 0

/-- The members of a set up to its closing bracket. -/
def setItems (opening : Nat) : Nat → List SetItem → Reader (List SetItem)
  | 0, soFar => return soFar
  | fuel + 1, soFar => do
    let this ← take
    if this = [] then refuseAt opening .unterminatedSet
    else if this = [.char ']'] ∧ soFar ≠ [] then return soFar
    else
      let first ← setMember this
      if ← accept '-' then
        let that ← take
        if that = [] then refuseAt opening .unterminatedSet
        else if that = [.char ']'] then return soFar ++ [first, .code '-'.toNat]
        else
          let last ← setMember that
          let flaw := Flaw.badRange (Text.ofList this) (Text.ofList that)
          match first, last with
          | .code m, .code n =>
            if n < m then refuse flaw (this.length + 1 + that.length)
            else setItems opening fuel (soFar ++ [.range m n])
          | _, _ => refuse flaw (this.length + 1 + that.length)
      else setItems opening fuel (soFar ++ [first])

/-- A set after its opening bracket; a set of one code point is that character. -/
def set : Reader Node := do
  let opening := (← offset) - 1
  let negated ← accept '^'
  let items := (← setItems opening ((← get).rest.length + 1) []).eraseDups
  match items with
  | [.code n] => return if negated then .notLiteral n else .literal n
  | _ => return .set negated items

/-- Refuses a reference to a group that is open, or was opened in the same look-behind. -/
def checkLookbehind (index : Nat) : Reader Unit := do
  let state ← get
  match state.lookbehindGroups? with
  | some first =>
    if (state.widths.lookup index).isNone then refuse .openGroup 0
    else if first ≤ index then refuse .lookbehindGroup 0
    else return ()
  | none => return ()

/-- A reference to a closed group by number. -/
def reference (index : Nat) (written : List Point) : Reader Node := do
  let state ← get
  if index < state.groups then
    if (state.widths.lookup index).isNone then refuse .openGroup written.length
    else
      checkLookbehind index
      return .reference index
  else refuse (.invalidGroup index) (written.length - 1)

/-- An escape that starts with a digit other than zero: three octal digits, or the number of a
group in one digit or two. -/
def numberEscape (c : Point) : Reader Node := do
  match ← peek with
  | [d] =>
    if isDigit d then
      advance
      let next ← peek
      match next with
      | [e] =>
        if isOctal c && isOctal d && isOctal e then
          advance
          return .literal (← octalEscape [.char '\\', c, d] [e])
        else reference (numberIn 10 [c, d]) [.char '\\', c, d]
      | _ => reference (numberIn 10 [c, d]) [.char '\\', c, d]
    else reference (numberIn 10 [c]) [.char '\\', c]
  | _ => reference (numberIn 10 [c]) [.char '\\', c]

/-- An escape outside of sets. -/
def escape (c : Point) : Reader Node := do
  match anchorEscape? c, categoryEscape? c, controlEscape? c with
  | some a, _, _ => return .anchor a
  | none, some (category, negated), _ => return .set false [.category category negated]
  | none, none, some n => return .literal n
  | none, none, none =>
    if c = .char '0' then return .literal (← octalEscape [.char '\\', c] (← takeUpTo isOctal 2))
    else if isDigit c then numberEscape c
    else return .literal (← sharedEscape c)

/-- A repetition count in decimal digits. -/
def count (digits : List Point) : Reader Nat := do
  if Text.digitLimit < digits.length then throw (.countTooLong digits.length)
  else if unlimited ≤ numberIn 10 digits then throw .countTooLarge
  else return numberIn 10 digits

/-- The bounds between braces after the opening one. Anything else leaves the brace an ordinary
character. -/
def bounds? : Reader (Option (Nat × Option Nat)) := do
  if (← peek) = [.char '\x7d'] then return none
  else
    let start ← offset
    let saved := (← get).rest
    let fuel := saved.length
    let low ← takeUpTo isDigit fuel
    let high ← if ← accept ',' then takeUpTo isDigit fuel else pure low
    if ← accept '\x7d' then
      let least ← if low = [] then pure 0 else count low
      if high = [] then return some (least, none)
      else
        let most ← count high
        if most < least then refuseAt start .emptyInterval
        else return some (least, some most)
    else
      modify fun state => { state with rest := saved }
      settle
      return none

/-- How a repetition tries its counts, by the mark after it. -/
def greed : Reader Greed := do
  if ← accept '?' then return .reluctant
  else if ← accept '+' then return .possessive
  else return .greedy

/-- Repeats the item read last. -/
def quantify (mark least : Nat) (most? : Option Nat) (soFar : List Node) :
    Reader (List Node) := do
  match soFar with
  | [] => refuseAt mark .nothingToRepeat
  | .anchor _ :: _ => refuseAt mark .nothingToRepeat
  | .repeated .. :: _ => refuseAt mark .multipleRepeat
  | item :: before =>
    let body :=
      match item with
      | .group none on off body => if on.isEmpty && off.isEmpty then body else [item]
      | _ => [item]
    return .repeated (← greed) least most? body :: before

/-- Puts the items of plain groups in place of the groups. -/
def spliced (nodes : List Node) : List Node :=
  nodes.flatMap fun node =>
    match node with
    | .group none on off body => if on.isEmpty && off.isEmpty then body else [node]
    | _ => [node]

/-- Moves what all alternatives start with in front of them. -/
def commonStart : List Node → List (List Node) → List Node × List (List Node)
  | [], others => ([], [] :: others)
  | node :: rest, others =>
    if others.all fun other => (other.head?.map node.sameSimple).getD false then
      let (shared, bodies) := commonStart rest (others.map List.tail)
      (node :: shared, bodies)
    else ([], (node :: rest) :: others)

/-- The members of a set that an alternative of one item stands for. -/
def asSet? : List Node → Option (List SetItem)
  | [.literal n] => some [.code n]
  | [.set false items] => some items
  | _ => none

/-- The items of several alternatives: what they share in front, then a set when each of them is one
character, and a branch otherwise. -/
def join (first : List Node) (others : List (List Node)) : List Node :=
  if others.isEmpty then first
  else
    let (shared, bodies) := commonStart first others
    match bodies.mapM asSet? with
    | some sets => shared ++ [.set false sets.flatten.eraseDups]
    | none => shared ++ [.branch bodies]

/-- Passes everything up to a line break. -/
def lineComment : Nat → Reader Unit
  | 0 => return ()
  | fuel + 1 => do
    let text ← take
    if text = [] ∨ text = [.char '\n'] then return () else lineComment fuel

/-- Passes everything up to a closing parenthesis. -/
def groupComment (opening : Nat) : Nat → Reader Unit
  | 0 => return ()
  | fuel + 1 => do
    if (← peek) = [] then refuseAt opening .unterminatedComment
    else if (← take) = [.char ')'] then return ()
    else groupComment opening fuel

/-- The switch of a token. -/
def flagOf? : List Point → Option Flags
  | [.char c] => Flags.ofLetter? c
  | _ => none

/-- Refuses a token in place of a switch: a letter is an unknown one. -/
def refuseFlag {α : Type} (text : List Point) (missing : Flaw) : Reader α :=
  match text with
  | [c] => refuse (if Text.isLetter c then .unknownFlag else missing) 1
  | _ => refuse missing text.length

/-- The switches that are turned on, and the token after them. -/
def flagsOn : Nat → Flags → Flags → Reader (Flags × List Point)
  | 0, _, soFar => return (soFar, [])
  | fuel + 1, flag, soFar => do
    if flag.locale then refuse .localeFlag 0
    let on := soFar.union flag
    if flag.meets .alphabets && (on.diff (on.diff .alphabets)) != flag then
      refuse .mixedAlphabets 0
    let text ← take
    if text = [] then refuse .missingFlagEnd 0
    else if text = [.char ')'] ∨ text = [.char '-'] ∨ text = [.char ':'] then return (on, text)
    else
      match flagOf? text with
      | some next => flagsOn fuel next on
      | none => refuseFlag text .missingFlagEnd

/-- The switches that are turned off, up to a colon. -/
def flagsOff : Nat → Flags → Flags → Reader Flags
  | 0, _, soFar => return soFar
  | fuel + 1, flag, soFar => do
    if flag.meets .alphabets then refuse .alphabetTurnedOff 0
    let off := soFar.union flag
    let text ← take
    if text = [] then refuse .missingColon 0
    else if text = [.char ':'] then return off
    else
      match flagOf? text with
      | some next => flagsOff fuel next off
      | none => refuseFlag text .missingColon

/-- The switches of a group, from their first token: those on and those off, or none when they are
switches of the whole pattern, which are turned on at once. -/
def groupFlags? (text : List Point) : Reader (Option (Flags × Flags)) := do
  let fuel := (← get).rest.length + 1
  let (on, text) ←
    match flagOf? text with
    | some flag => flagsOn fuel flag {}
    | none => pure ({}, text)
  if text = [.char ')'] then
    modify fun state => { state with flags := state.flags.union on }
    return none
  else
    if on.meets .wholeOnly then refuse .groupTurnsOn 1
    let off ←
      if text = [.char '-'] then
        let text ← take
        if text = [] then refuse .missingFlag 0
        else
          match flagOf? text with
          | some flag => flagsOff fuel flag {}
          | none => refuseFlag text .missingFlag
      else pure {}
    if off.meets .wholeOnly then refuse .groupTurnsOff 1
    if on.meets off then refuse .onAndOff 1
    return some (on, off)

/-- Opens a capturing group and gives its number. -/
def openGroup (name? : Option (List Point)) : Reader Nat := do
  let state ← get
  let index := state.groups
  match name? with
  | some cs =>
    let named := Text.ofList cs
    match state.names.lookup named with
    | some first => refuse (.repeatedName named index first) (cs.length + 1)
    | none =>
      modify fun state =>
        { state with groups := index + 1, names := (named, index) :: state.names }
  | none => modify fun state => { state with groups := index + 1 }
  return index

def closeGroup (index : Nat) (body : List Node) : Reader Unit :=
  modify fun state =>
    { state with widths := (index, (sequenceWidth state.widths body).capped) :: state.widths }

/-- A reference to a group by name, after the sign of equality. -/
def namedReference : Reader Node := do
  let cs ← name ')' "group name"
  checkName cs
  let state ← get
  match state.names.lookup (Text.ofList cs) with
  | none => refuse (.unknownGroup (Text.ofList cs)) (cs.length + 1)
  | some index =>
    if (state.widths.lookup index).isNone then refuse .openGroup (cs.length + 1)
    else
      checkLookbehind index
      return .reference index

/-- The group that a condition asks for, by name or by number. -/
def condition : Reader Nat := do
  let cs ← name ')' "group name"
  let back := cs.length + 1
  let state ← get
  if Text.isIdentifier cs then
    match state.names.lookup (Text.ofList cs) with
    | some index =>
      checkLookbehind index
      return index
    | none => refuse (.unknownGroup (Text.ofList cs)) back
  else
    match Text.wholeInteger? cs with
    | some (.ofNat index) =>
      if index = 0 then refuse .groupZero back
      else if groupLimit ≤ index then refuse (.invalidGroup index) back
      else
        let place := (← offset) - back
        if (state.tested.lookup index).isNone then
          modify fun state => { state with tested := state.tested ++ [(index, place)] }
        checkLookbehind index
        return index
    | _ => refuse (.badGroupName (Text.ofList cs)) back

/-- What stands after an opening parenthesis: an item, nothing, or switches of the whole
pattern. -/
inductive Piece where
  | item (node : Node)
  | nothing
  | switches

/-- Expects the closing parenthesis of what was opened. -/
def close (opening : Nat) : Reader Unit := do
  if ← accept ')' then return () else refuseAt opening .unterminatedGroup

mutual

/-- Alternatives up to a closing parenthesis or the end. -/
def alternatives : Nat → Bool → Bool → Reader (List Node)
  | 0, _, _ => refuse .unexpectedEnd 0
  | fuel + 1, verbose, top => do
    let first ← sequence fuel verbose top []
    let others ← moreAlternatives fuel verbose top
    return join first others
termination_by structural fuel => fuel

/-- The alternatives after the first. On the outermost level each starts with the switches of the
whole pattern. -/
def moreAlternatives : Nat → Bool → Bool → Reader (List (List Node))
  | 0, _, _ => refuse .unexpectedEnd 0
  | fuel + 1, verbose, top => do
    if ← accept '|' then
      let state ← get
      let verbose := if top then state.flags.verbose else verbose
      let body ← sequence fuel verbose false []
      return body :: (← moreAlternatives fuel verbose top)
    else return []
termination_by structural fuel => fuel

/-- Items in a row, the last one read first in the list. -/
def sequence : Nat → Bool → Bool → List Node → Reader (List Node)
  | 0, _, _, _ => refuse .unexpectedEnd 0
  | fuel + 1, verbose, leading, soFar => do
    let mark ← offset
    let text ← peek
    if text = [] ∨ text = [.char '|'] ∨ text = [.char ')'] then return spliced soFar.reverse
    else
      advance
      let next := sequence fuel verbose leading
      let repeatBy (least : Nat) (most? : Option Nat) := do
        next (← quantify mark least most? soFar)
      match text with
      | ['\\', c] => next ((← escape c) :: soFar)
      | [c] =>
        if verbose && Text.isAsciiSpace c then next soFar
        else if verbose && c = .char '#' then
          lineComment ((← get).rest.length + 1)
          next soFar
        else
          match c with
          | '[' => next ((← set) :: soFar)
          | '*' => repeatBy 0 none
          | '+' => repeatBy 1 none
          | '?' => repeatBy 0 (some 1)
          | '\x7b' =>
            match ← bounds? with
            | some (least, most?) => repeatBy least most?
            | none => next (.literal c.toNat :: soFar)
          | '.' => next (.any :: soFar)
          | '^' => next (.anchor .start :: soFar)
          | '$' => next (.anchor .finish :: soFar)
          | '(' =>
            match ← group fuel verbose mark with
            | .item node => next (node :: soFar)
            | .nothing => next soFar
            | .switches =>
              if leading && soFar.isEmpty then do
                sequence fuel (← get).flags.verbose leading soFar
              else refuseAt mark .lateFlags
          | _ => next (.literal c.toNat :: soFar)
      | _ => next soFar
termination_by structural fuel => fuel

/-- What stands between parentheses, after the opening one. -/
def group : Nat → Bool → Nat → Reader Piece
  | 0, _, _ => refuse .unexpectedEnd 0
  | fuel + 1, verbose, opening => do
    if ← accept '?' then
      let text ← take
      match text with
      | [] => refuse .unexpectedEnd 0
      | ['P'] =>
        if ← accept '<' then
          let cs ← name '>' "group name"
          checkName cs
          return .item (← capture fuel verbose opening (some cs))
        else if ← accept '=' then return .item (← namedReference)
        else
          let text ← take
          if text = [] then refuse .unexpectedEnd 0
          else refuse (.unknownExtension ("P" ++ Text.ofList text)) (text.length + 2)
      | [':'] => return .item (← enclosed fuel verbose opening {} {})
      | ['#'] =>
        groupComment opening ((← get).rest.length + 1)
        return .nothing
      | ['='] => return .item (← look fuel verbose opening false false)
      | ['!'] => return .item (← look fuel verbose opening false true)
      | ['<'] =>
        let text ← take
        if text = [] then refuse .unexpectedEnd 0
        else if text = [.char '='] then return .item (← look fuel verbose opening true false)
        else if text = [.char '!'] then return .item (← look fuel verbose opening true true)
        else refuse (.unknownExtension ("<" ++ Text.ofList text)) (text.length + 2)
      | ['('] =>
        let index ← condition
        let present ← sequence fuel verbose false []
        let absent ←
          if ← accept '|' then
            let body ← sequence fuel verbose false []
            if (← peek) = [.char '|'] then refuse .thirdBranch 0
            pure body
          else pure []
        close opening
        return .item (.conditional index present absent)
      | ['>'] =>
        let body ← alternatives fuel verbose false
        close opening
        return .item (.atomic body)
      | _ =>
        if (flagOf? text).isSome ∨ text = [.char '-'] then
          match ← groupFlags? text with
          | none => return .switches
          | some (on, off) => return .item (← enclosed fuel verbose opening on off)
        else refuse (.unknownExtension (Text.ofList text)) (text.length + 1)
    else return .item (← capture fuel verbose opening none)
termination_by structural fuel => fuel

/-- The body of a capturing group. -/
def capture : Nat → Bool → Nat → Option (List Point) → Reader Node
  | 0, _, _, _ => refuse .unexpectedEnd 0
  | fuel + 1, verbose, opening, name? => do
    let index ← openGroup name?
    let body ← alternatives fuel verbose false
    close opening
    closeGroup index body
    return .group (some index) {} {} body
termination_by structural fuel => fuel

/-- The body of a group that does not capture. -/
def enclosed : Nat → Bool → Nat → Flags → Flags → Reader Node
  | 0, _, _, _, _ => refuse .unexpectedEnd 0
  | fuel + 1, verbose, opening, on, off => do
    let body ← alternatives fuel ((verbose || on.verbose) && !off.verbose) false
    close opening
    return .group none on off body
termination_by structural fuel => fuel

/-- The body of a look ahead or behind. -/
def look : Nat → Bool → Nat → Bool → Bool → Reader Node
  | 0, _, _, _, _ => refuse .unexpectedEnd 0
  | fuel + 1, verbose, opening, behind, negated => do
    let outer := (← get).lookbehindGroups?
    if behind && outer.isNone then
      modify fun state => { state with lookbehindGroups? := some state.groups }
    let body ← alternatives fuel verbose false
    if behind && outer.isNone then
      modify fun state => { state with lookbehindGroups? := none }
    close opening
    return .look behind negated body
termination_by structural fuel => fuel

end

/-- A pattern as a whole, with the switches that hold for all of it. -/
def whole : Reader (List Node × Flags) := do
  settle
  let nodes ← alternatives (4 * (← get).rest.length + 8) false true
  let state ← get
  if state.flags.ascii && state.flags.unicode then throw .alphabetsClash
  if (← peek) ≠ [] then refuse .unbalanced 0
  match state.tested.find? fun entry => state.groups ≤ entry.1 with
  | some (index, place) => refuseAt place (.invalidGroup index)
  | none => return (nodes, { state.flags with unicode := !state.flags.ascii })

/-- Reads the text of a pattern. -/
def run (source : List Point) : Except Fault (List Node × Flags × GroupWidths) := do
  let ((nodes, flags), state) ←
    StateT.run whole
      { source, rest := tokens 0 source, flags := {}, names := [], groups := 1, widths := [],
        lookbehindGroups? := none, tested := [] }
  return (nodes, flags, state.widths)

end Reader

end RecordSchema.Pattern
