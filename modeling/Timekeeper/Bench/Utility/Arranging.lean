import Timekeeper.Binary64.Rounding
import Timekeeper.Bench.Utility.Reading
import Timekeeper.Bench.Wildcard

/-!
# Utilities that change and arrange

Programs that exchange octets, cut and join lines, and put them in order.
-/

namespace Timekeeper

namespace Bench

namespace Utility

/-! ### Exchanging octets -/

/-- An octet written with a backslash, behind it, and what follows. -/
def escaped (octets : Octets) : Char × Octets :=
  match octets with
  | [] => ('\\', [])
  | c :: rest =>
    let digits := (octets.take 3).takeWhile fun d => '0' ≤ d && d ≤ '7'
    if !digits.isEmpty then
      (Octets.octet (digits.foldl (fun n d => n * 8 + (d.toNat - '0'.toNat)) 0),
        octets.drop digits.length)
    else
      (match c with
        | 'a' => '\x07'
        | 'b' => '\x08'
        | 'f' => '\x0c'
        | 'n' => '\n'
        | 'r' => '\r'
        | 't' => '\t'
        | 'v' => '\x0b'
        | d => d, rest)

/-- All octets from one to another. -/
def octetRange (low high : Char) : Octets :=
  (List.range (high.toNat + 1 - low.toNat)).map fun n => Char.ofNat (low.toNat + n)

/-- The octets of a set as it is written. -/
def setOf : Nat → Octets → Octets
  | 0, _ => []
  | _, [] => []
  | fuel + 1, '[' :: ':' :: rest =>
    let name := rest.takeWhile (· ≠ ':')
    match rest.drop name.length with
    | ':' :: ']' :: after =>
      let ranges := Wild.namedRanges name
      (octetRange '\x00' '\xff').filter (Wild.holds ranges) ++ setOf fuel after
    | _ => '[' :: setOf fuel (':' :: rest)
  | fuel + 1, c :: rest =>
    let (low, after) := if c = '\\' then escaped rest else (c, rest)
    match after with
    | '-' :: d :: more =>
      let (high, behind) := if d = '\\' then escaped more else (d, more)
      octetRange low high ++ setOf fuel behind
    | _ => low :: setOf fuel after

/-- Leaves one of each run of equal octets of a set. -/
def squeeze (set : Octets) (text : Octets) : Octets :=
  (text.foldl (fun (kept : Octets) c =>
    if kept.head? = some c && set.contains c then kept else c :: kept) []).reverse

/-- Exchanges or leaves out octets. -/
def tr : Utility := fun c =>
  c.withOptions 1 "cCdst" "" [("delete", 'd'), ("squeeze-repeats", 's'), ("complement", 'c')]
    fun o =>
      match o.operands with
      | [] => c.missingOperand 1
      | first :: more =>
        let written := setOf (first.length + 1) first
        let inverted := o.has 'c' || o.has 'C'
        let set :=
          if inverted then (octetRange '\x00' '\xff').filter fun d => !written.contains d
          else written
        let second := more.head?.map fun s => setOf (s.length + 1) s
        let finish (s : Stream) (squeezed : Octets) : Effect :=
          let squeezing := o.has 's'
          { c.print (if squeezing then squeeze squeezed s.octets else s.octets) with
            endless := if squeezing then [] else s.endless
            pause := if s.ends then some 0 else none }
        if o.has 'd' then
          finish (c.input.filterMap fun d => if set.contains d then none else some d)
            (second.getD [])
        else
          match second with
          | none =>
            if o.has 's' then finish c.input set
            else
              c.misuse 1 ("missing operand after ".toList ++ Call.quoteAlways first ++
                "\nTwo strings must be given when translating.".toList)
          | some target =>
            let last := target.getLast?.getD '\x00'
            let table := (octetRange '\x00' '\xff').map fun d =>
              match set.reverse.idxOf? d with
              | some i =>
                if inverted then last else target.getD (set.length - 1 - i) last
              | none => d
            let table := table.toArray
            finish (c.input.filterMap fun d => some (table.getD d.toNat d)) target

/-! ### Cutting and joining lines -/

/-- The ranges of a list of positions: each a first and a last one. -/
def positions? (text : Octets) : Option (List (Nat × Nat)) :=
  (splitOn ',' text).mapM fun item =>
    match splitOn '-' item with
    | [one] => (natOf? one).map fun n => (n, n)
    | [low, high] =>
      match low.isEmpty, high.isEmpty with
      | true, true => none
      | true, false => (natOf? high).map fun h => (1, h)
      | false, true => (natOf? low).map fun l => (l, 1000000000)
      | false, false =>
        match natOf? low, natOf? high with
        | some l, some h => some (l, h)
        | _, _ => none
    | _ => none

/-- The members of a list at some positions. -/
def selectAt (ranges : List (Nat × Nat)) (members : List α) : List α :=
  (members.zipIdx 1).filterMap fun (x, i) =>
    if ranges.any fun (l, h) => l ≤ i && i ≤ h then some x else none

/-- Gives parts of each line. -/
def cut : Utility := fun c =>
  c.withOptions 1 "sn" "bcfd" [("fields", 'f'), ("delimiter", 'd'), ("bytes", 'b')] fun o =>
    let which := (o.value? 'f').orElse fun _ => (o.value? 'c').orElse fun _ => o.value? 'b'
    match which.bind positions? with
    | none =>
      c.misuse 1 "you must specify a list of bytes, characters, or fields".toList
    | some ranges =>
      c.overAll o.operands 1 fun text => closeLines ((linesOf text).filterMap fun line =>
        if (o.value? 'f').isSome then
          let separator := ((o.value? 'd').bind List.head?).getD '\t'
          if line.contains separator then
            some (joinWith [separator] (selectAt ranges (splitOn separator line)))
          else if o.has 's' then none
          else some line
        else some (selectAt ranges line))

/-- A text with a line feed in front of each octet for which its line has no room. -/
def folded (width : Nat) (text : Octets) : Octets :=
  (text.foldl (fun (state : Nat × Octets) c =>
    if c = '\n' then (0, c :: state.2)
    else if state.1 < width then (state.1 + 1, c :: state.2)
    else (1, c :: '\n' :: state.2)) (0, [])).2.reverse

/-- Breaks long lines. -/
def fold : Utility := fun c =>
  c.withOptions 1 "bs" "w" [("width", 'w')] fun o =>
    c.overAll o.operands 1 (folded (max 1 (((o.value? 'w').bind natOf?).getD 80)))

/-- Joins lines. -/
def paste : Utility := fun c =>
  c.withOptions 1 "s" "d" [("serial", 's'), ("delimiters", 'd')] fun o =>
    let separator := ((o.value? 'd').bind List.head?).getD '\t'
    if o.has 's' then
      c.overFiles o.operands 1 fun _ s => joinWith [separator] (linesOf s.octets) ++ ['\n']
    else
      let files := (c.openAll o.operands).map fun (_, file) =>
        match file with
        | .ok s => linesOf s.octets
        | .error _ => []
      let count := (files.map List.length).foldl max 0
      c.print (closeLines ((List.range count).map fun i =>
        joinWith [separator] (files.map fun lines => lines.getD i [])))

/-! ### Putting lines in order -/

/-- The number at the beginning of a text, in thousandths. -/
def leadingNumber (text : Octets) : Int :=
  let text := text.dropWhile isSpace
  let (negative, body) := if text.head? = some '-' then (true, text.drop 1) else (false, text)
  let whole := body.takeWhile Char.isDigit
  let rest := body.drop whole.length
  let fraction := if rest.head? = some '.' then (rest.drop 1).takeWhile Char.isDigit else []
  let digits := whole ++ (fraction ++ ['0', '0', '0']).take 3
  let n : Nat := digits.foldl (fun n d => n * 10 + (d.toNat - '0'.toNat)) 0
  if negative then -(n : Int) else n

/-- The part of a line by which it is sorted: from one field to another. -/
def sortKey (separator : Option Char) (low : Nat) (high : Option Nat) (line : Octets) : Octets :=
  let fields :=
    match separator with
    | some s => splitOn s line
    | none => (splitOn ' ' line).filter fun field => !field.isEmpty
  let kept := fields.drop (low - 1)
  let kept :=
    match high with
    | some h => kept.take (h + 1 - low)
    | none => kept
  joinWith [separator.getD ' '] kept

/-- A key as it is written: its first and last field and its letters. -/
def keyOf (text : Octets) : Nat × Option Nat × Octets :=
  let letters := text.filter Char.isAlpha
  let plain := text.filter fun c => !c.isAlpha
  let number (piece : Octets) : Nat := (natOf? (piece.takeWhile Char.isDigit)).getD 1
  match splitOn ',' plain with
  | [low] => (number low, none, letters)
  | low :: high :: _ => (number low, some (number high), letters)
  | [] => (1, none, letters)

/-- Gives lines in order. -/
def sort : Utility := fun c =>
  c.withOptions 2 "nrufbgdisVhM" "kto" [("numeric-sort", 'n'), ("reverse", 'r'), ("unique", 'u')]
    fun o =>
      let separator := (o.value? 't').bind List.head?
      let keys := (o.values 'k').map keyOf
      let lower (text : Octets) : Octets := text.map Char.toLower
      let below (numeric fold : Bool) (a b : Octets) : Bool :=
        if numeric then leadingNumber a < leadingNumber b
        else if fold then lower a < lower b
        else a < b
      let numericAll := o.has 'n' || o.has 'g' || o.has 'h'
      let keyed (line : Octets) (key : Nat × Option Nat × Octets) : Octets :=
        sortKey separator key.1 key.2.1 line
      let rec order (a b : Octets) : List (Nat × Option Nat × Octets) → Option Bool
        | [] => none
        | key :: rest =>
          let numeric := key.2.2.contains 'n' || (key.2.2.isEmpty && numericAll)
          let reversed := key.2.2.contains 'r' || (key.2.2.isEmpty && o.has 'r')
          let x := keyed a key
          let y := keyed b key
          if below numeric (o.has 'f') x y then some (!reversed)
          else if below numeric (o.has 'f') y x then some reversed
          else order a b rest
      let before (a b : Octets) : Option Bool :=
        if keys.isEmpty then
          if below numericAll (o.has 'f') a b then some (!o.has 'r')
          else if below numericAll (o.has 'f') b a then some (o.has 'r')
          else none
        else order a b keys
      let least (a b : Octets) : Bool :=
        match before a b with
        | some yes => yes
        | none => if o.has 's' || o.has 'u' then true else if o.has 'r' then !(a < b) else !(b < a)
      let arrange (text : Octets) : Octets :=
        let sorted := (linesOf text).mergeSort least
        let sorted :=
          if o.has 'u' then
            (sorted.foldl (fun (kept : List Octets) line =>
              match kept with
              | last :: _ => if (before last line).isNone then kept else line :: kept
              | [] => [line]) []).reverse
          else sorted
        closeLines sorted
      match o.value? 'o' with
      | none => c.overAll o.operands 2 arrange
      | some target =>
        let effect := c.overAll o.operands 2 arrange
        let text := effect.writes.flatMap fun (side, text) => if side = .output then text else []
        let complaints := effect.writes.filter fun (side, _) => side = .errors
        if !complaints.isEmpty then { effect with writes := complaints }
        else
          match c.tree.write c.directory (Call.path target) text with
          | .ok tree => { c.effect 0 [] with tree := tree }
          | .error fault =>
            c.fail 2 ("open failed: ".toList ++ Call.quoteSome target ++ [':', ' '] ++
              fault.text.toList)

/-- Runs of equal neighbours with their lengths. -/
def runsOf (same : Octets → Octets → Bool) (lines : List Octets) : List (Nat × Octets) :=
  (lines.foldl (fun (runs : List (Nat × Octets)) line =>
    match runs with
    | (n, first) :: rest => if same first line then (n + 1, first) :: rest else (1, line) :: runs
    | [] => [(1, line)]) []).reverse

/-- Gives one of each run of equal lines. -/
def uniq : Utility := fun c =>
  c.withOptions 1 "cdui" "fsw" [("count", 'c'), ("repeated", 'd'), ("unique", 'u')] fun o =>
    c.overAll (o.operands.take 1) 1 fun text =>
      let same (a b : Octets) : Bool :=
        if o.has 'i' then a.map Char.toLower = b.map Char.toLower else a = b
      let runs := (runsOf same (linesOf text)).filter fun (n, _) =>
        (!o.has 'd' || n > 1) && (!o.has 'u' || n = 1)
      closeLines (runs.map fun (n, line) =>
        if o.has 'c' then padLeft 7 (decimal n) ++ ' ' :: line else line)

/-! ### Sequences of numbers -/

/-- A decimal number as a count of units of its last place, and how many places it has. -/
def placed? (text : Octets) : Option (Int × Nat) :=
  let (negative, body) :=
    match text with
    | '-' :: rest => (true, rest)
    | '+' :: rest => (false, rest)
    | _ => (false, text)
  let whole := body.takeWhile (· ≠ '.')
  let fraction := (body.drop whole.length).drop 1
  match natOf? (whole ++ fraction) with
  | some n => some (if negative then -(n : Int) else n, fraction.length)
  | none => none

/-- A count of units of the last place as a decimal number. -/
def placedText (places : Nat) (n : Int) : Octets :=
  let scale := powerOfTen places
  let fraction := decimal (n.natAbs % scale)
  (if n < 0 then ['-'] else []) ++ decimal (n.natAbs / scale) ++
    if places = 0 then [] else '.' :: List.replicate (places - fraction.length) '0' ++ fraction

/-- Writes numbers in even steps. -/
def seq : Utility := fun c =>
  let rec split : List Octets → Octets → Bool → List Octets → Octets × Bool × List Octets
    | ['-', 's'] :: s :: rest, _, equal, read => split rest s equal read
    | ('-' :: 's' :: s) :: rest, _, equal, read => split rest s equal read
    | ['-', 'w'] :: rest, separator, _, read => split rest separator true read
    | a :: rest, separator, equal, read => split rest separator equal (a :: read)
    | [], separator, equal, read => (separator, equal, read.reverse)
  let (separator, equal, numbers) := split c.arguments ['\n'] false []
  let bounds :=
    match numbers with
    | [last] => some (['1'], ['1'], last)
    | [first, last] => some (first, ['1'], last)
    | [first, step, last] => some (first, step, last)
    | _ => none
  match bounds with
  | none => if numbers.isEmpty then c.missingOperand 1
    else c.misuse 1 ("extra operand ".toList ++ Call.quoteAlways (numbers.getD 3 []))
  | some (first, step, last) =>
    match placed? first, placed? step, placed? last with
    | some (a, p), some (d, q), some (b, r) =>
      let places := max p q
      let scale := max places r
      let a := a * powerOfTen (scale - p)
      let d := d * powerOfTen (scale - q)
      let b := b * powerOfTen (scale - r)
      if d = 0 then c.misuse 1 "invalid Zero increment value: '0'".toList
      else
        let count := if d > 0 then (b - a) / d + 1 else (a - b) / (-d) + 1
        let texts := (List.range count.toNat).map fun (i : Nat) =>
          placedText places ((a + d * (i : Int)) / powerOfTen (scale - places))
        let width := if equal then (texts.map List.length).foldl max 0 else 0
        let padded := texts.map fun t => List.replicate (width - t.length) '0' ++ t
        c.print (if padded.isEmpty then [] else joinWith separator padded ++ ['\n'])
    | _, _, _ =>
      let bad := (numbers.find? fun n => (placed? n).isNone).getD []
      c.misuse 1 ("invalid floating point argument: ".toList ++ Call.quoteAlways bad)

end Utility

end Bench

end Timekeeper
