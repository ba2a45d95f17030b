import Timekeeper.Bench.Utility.Basic

/-!
# Utilities that copy and count

Programs that give what they read, in whole or in part, in another order, or by number.
-/

namespace Timekeeper

namespace Bench

namespace Utility

/-- A text brought to a width with spaces in front. -/
def padLeft (width : Nat) (text : Octets) : Octets :=
  List.replicate (width - text.length) ' ' ++ text

/-- Lines with their numbers in front. -/
def numbered (skipEmpty : Bool) : Nat → List Octets → List Octets
  | _, [] => []
  | n, line :: rest =>
    if skipEmpty && line.isEmpty then line :: numbered skipEmpty n rest
    else (padLeft 6 (decimal n) ++ '\t' :: line) :: numbered skipEmpty (n + 1) rest

/-- Gives files one after another. -/
def cat : Utility := fun c =>
  c.withOptions 1 "AbeEnstTuv" "" [("number", 'n')] fun o =>
    if o.has 'n' || o.has 'b' then
      c.overAll o.operands 1 fun text => closeLines (numbered (o.has 'b') 1 (linesOf text))
    else
      let rec go : List (Octets × Except Fault Stream) → List (Side × Octets) → Nat → Effect
        | [], writes, status => c.effect status writes.reverse
        | (name, .error fault) :: rest, writes, _ =>
          go rest (c.fileComplaint name fault :: writes) 1
        | (_, .ok s) :: rest, writes, status =>
          if s.ends then go rest ((.output, s.octets) :: writes) status
          else { c.effect status ((.output, s.octets) :: writes).reverse with
            endless := s.endless, pause := none }
      go (c.openAll o.operands) [] 0

/-- The arguments of a call in which a bare number behind a dash is written as an option. -/
def numberAsOption (arguments : List Octets) : List Octets :=
  match arguments with
  | ('-' :: c :: rest) :: more =>
    if c.isDigit && rest.all Char.isDigit then ['-', 'n'] :: (c :: rest) :: more else arguments
  | _ => arguments

/-- A count with a factor behind it. -/
def countOf? (octets : Octets) : Option Nat :=
  let digits := octets.takeWhile Char.isDigit
  match natOf? digits, String.ofList (octets.drop digits.length) with
  | some n, "" => some n
  | some n, "b" => some (n * 512)
  | some n, "kB" => some (n * 1000)
  | some n, "k" | some n, "K" | some n, "KiB" => some (n * 1024)
  | some n, "MB" => some (n * 1000000)
  | some n, "M" => some (n * 1048576)
  | _, _ => none

/-- The text above a file among several. -/
def header (first : Bool) (name : Octets) : Octets :=
  let shown := if name = ['-'] then "standard input".toList else name
  (if first then [] else ['\n']) ++ "==> ".toList ++ shown ++ " <==\n".toList

/-- Gives a part of each file, under its name if there are several. -/
def partOfEach (c : Call) (o : Options) (part : Stream → Octets) : Effect :=
  let files := c.openAll o.operands
  let titled := (files.length > 1 || o.has 'v') && !o.has 'q'
  let rec go : List (Octets × Except Fault Stream) → Bool → List (Side × Octets) → Nat → Effect
    | [], _, writes, status => c.effect status writes.reverse
    | (name, .error fault) :: rest, first, writes, _ =>
      go rest first (c.complaint ("cannot open ".toList ++ Call.quoteAlways name ++
        " for reading: ".toList ++ fault.text.toList) :: writes) 1
    | (name, .ok s) :: rest, _first, writes, status =>
      let text := if titled then header _first name else []
      go rest false ((.output, text ++ part s) :: writes) status
  go files true [] 0

/-- Gives the beginning of each file. -/
def head : Utility := fun c =>
  let c := { c with arguments := numberAsOption c.arguments }
  c.withOptions 1 "qvz" "nc" [("lines", 'n'), ("bytes", 'c')] fun o =>
    let bad (what : String) (value : Octets) : Effect :=
      c.fail 1 (("invalid number of " ++ what ++ ": ").toList ++ Call.quoteAlways value)
    match o.value? 'c', o.value? 'n' with
    | some ('-' :: value), _ =>
      match countOf? value with
      | some n => partOfEach c o fun s => s.octets.take (s.octets.length - n)
      | none => bad "bytes" ('-' :: value)
    | some value, _ =>
      match countOf? value with
      | some n => partOfEach c o (Stream.take n)
      | none => bad "bytes" value
    | none, some ('-' :: value) =>
      match countOf? value with
      | some n => partOfEach c o fun s =>
          let lines := linesOf s.octets
          closeLines (lines.take (lines.length - n))
      | none => bad "lines" ('-' :: value)
    | none, value =>
      match countOf? (value.getD ['1', '0']) with
      | some n => partOfEach c o (Stream.takeLines n)
      | none => bad "lines" (value.getD [])

/-- The last lines of a text, the last one as it ends. -/
def lastLines (count : Nat) (text : Octets) : Octets :=
  let lines := linesOf text
  let kept := closeLines (lines.drop (lines.length - count))
  if text.getLast? = some '\n' || kept.isEmpty then kept else kept.dropLast

/-- A text behind some of its lines. -/
def behindLines : Nat → Octets → Octets
  | 0, text => text
  | _, [] => []
  | n + 1, text => behindLines n ((text.dropWhile (· ≠ '\n')).drop 1)

/-- Gives the end of each file. -/
def tail : Utility := fun c =>
  let c := { c with arguments := numberAsOption c.arguments }
  c.withOptions 1 "qvz" "nc" [("lines", 'n'), ("bytes", 'c')] fun o =>
    let bad (what : String) (value : Octets) : Effect :=
      c.fail 1 (("invalid number of " ++ what ++ ": ").toList ++ Call.quoteAlways value)
    let unsigned (value : Octets) : Octets := if value.head? = some '-' then value.drop 1 else value
    match o.value? 'c', o.value? 'n' with
    | some ('+' :: value), _ =>
      match countOf? value with
      | some n => partOfEach c o fun s => s.octets.drop (n - 1)
      | none => bad "bytes" value
    | some value, _ =>
      match countOf? (unsigned value) with
      | some n => partOfEach c o fun s => s.octets.drop (s.octets.length - n)
      | none => bad "bytes" value
    | none, some ('+' :: value) =>
      match countOf? value with
      | some n => partOfEach c o fun s => behindLines (n - 1) s.octets
      | none => bad "lines" value
    | none, value =>
      match countOf? (unsigned (value.getD ['1', '0'])) with
      | some n => partOfEach c o fun s => lastLines n s.octets
      | none => bad "lines" (value.getD [])

/-- Whether an octet separates words. -/
def isSpace (c : Char) : Bool := c = ' ' || (9 ≤ c.toNat && c.toNat ≤ 13)

/-- How many words a text has. -/
def wordCount (text : Octets) : Nat :=
  (text.foldl (fun (inside, n) c =>
    if isSpace c then (false, n) else (true, if inside then n else n + 1)) (false, 0)).2

/-- Counts lines, words and octets. -/
def wc : Utility := fun c =>
  c.withOptions 1 "lwcmL" "" [("lines", 'l'), ("words", 'w'), ("bytes", 'c'), ("chars", 'm')]
    fun o =>
      let all := !(o.has 'l' || o.has 'w' || o.has 'c' || o.has 'm' || o.has 'L')
      let countsOf (text : Octets) : List Nat :=
        (if all || o.has 'l' then [text.count '\n'] else []) ++
          (if all || o.has 'w' then [wordCount text] else []) ++
          (if o.has 'm' then [text.length] else []) ++
          (if all || o.has 'c' then [text.length] else []) ++
          (if o.has 'L' then [((linesOf text).map List.length).foldl max 0] else [])
      let files := c.openAll o.operands
      let columns := (countsOf []).length
      let size := files.foldl (fun n (_, file) =>
        match file with
        | .ok s => n + s.octets.length
        | .error _ => n) 0
      let width :=
        if columns = 1 && files.length = 1 then 1
        else if o.operands.isEmpty || o.operands.contains ['-'] then 7
        else (decimal size).length
      let line (counts : List Nat) (name : Octets) : Octets :=
        joinWith [' '] (counts.map fun n => padLeft width (decimal n)) ++
          (if name.isEmpty then [] else ' ' :: name) ++ ['\n']
      let rows := files.map fun (name, file) =>
        match file with
        | .ok s => (Side.output, line (countsOf s.octets) (if o.operands.isEmpty then [] else name))
        | .error fault => c.fileComplaint name fault
      let texts := files.filterMap fun (_, file) =>
        match file with
        | .ok s => some (countsOf s.octets)
        | .error _ => none
      let sum := texts.foldl (List.zipWith (· + ·)) (countsOf [])
      let total := if files.length > 1 then [(Side.output, line sum "total".toList)] else []
      let bad := texts.length < files.length
      let never := files.any fun (_, file) => match file with
        | .ok s => !s.ends
        | .error _ => false
      { c.effect (if bad then 1 else 0) (rows ++ total) with
        pause := if never then none else some 0 }

/-- Writes each line backwards. -/
def rev : Utility := fun c =>
  c.withOptions 1 "" "" [] fun o =>
    c.overAll o.operands 1 fun text => closeLines ((linesOf text).map List.reverse)

/-- Writes the lines in reverse order. -/
def tac : Utility := fun c =>
  c.withOptions 1 "" "" [] fun o =>
    c.overAll o.operands 1 fun text => closeLines (linesOf text).reverse

/-- Writes lines with their numbers. -/
def nl : Utility := fun c =>
  c.withOptions 1 "" "bwsn" [] fun o =>
    c.overAll o.operands 1 fun text =>
      let all := o.value? 'b' = some ['a']
      let step := fun (state : Nat × Octets) (line : Octets) =>
        if line.isEmpty && !all then (state.1, state.2 ++ List.replicate 7 ' ' ++ ['\n'])
        else (state.1 + 1,
          state.2 ++ padLeft 6 (decimal state.1) ++ ['\t'] ++ line ++ ['\n'])
      ((linesOf text).foldl step (1, [])).2

/-- Copies its input to its output and to files. -/
def tee : Utility := fun c =>
  c.withOptions 1 "aip" "" [("append", 'a')] fun o =>
    let (tree, complaints) := o.operands.foldl (fun (tree, complaints) name =>
      if name = "/dev/null".toList then (tree, complaints)
      else
        let path := Call.path name
        let old :=
          match o.has 'a', tree.find c.directory path with
          | true, .ok (_, .file content _) => content
          | _, _ => []
        match tree.write c.directory path (old ++ c.input.octets) with
        | .ok tree => (tree, complaints)
        | .error fault => (tree, complaints ++ [c.fileComplaint name fault])) (c.tree, [])
    let writes := complaints ++ [(.output, c.input.octets)]
    { c.effect (if complaints.isEmpty then 0 else 1) writes with
      tree := tree, endless := c.input.endless, pause := if c.input.ends then some 0 else none }

/-- Writes a line again and again. -/
def yes : Utility := fun c =>
  let text := if c.arguments.isEmpty then ['y'] else joinWith [' '] c.arguments
  { c.effect 0 [] with endless := text ++ ['\n'], pause := none }

/-- Copies blocks. -/
def dd : Utility := fun c =>
  let pairs := c.arguments.map fun a =>
    let key := a.takeWhile (· ≠ '=')
    (String.ofList key, (a.drop key.length).drop 1)
  let size := ((pairs.lookup "bs").bind countOf?).getD 512
  let count := (pairs.lookup "count").bind countOf?
  let skipped := ((pairs.lookup "skip").bind countOf?).getD 0
  match c.open_ ((pairs.lookup "if").getD ['-']) with
  | .error fault =>
    c.fail 1 ("failed to open ".toList ++ Call.quoteAlways ((pairs.lookup "if").getD []) ++
      [':', ' '] ++ fault.text.toList)
  | .ok s =>
    let s := if s.ends then Stream.ofOctets (s.octets.drop (skipped * size)) else s
    match count, s.ends with
    | none, false => { c.effect 0 [] with endless := s.endless, pause := none }
    | _, _ =>
      let data :=
        match count with
        | some n => s.take (n * size)
        | none => s.octets
      let whole := data.length / size
      let part := if data.length % size = 0 then 0 else 1
      let records := decimal whole ++ ['+'] ++ decimal part ++ " records ".toList
      let report :=
        if pairs.lookup "status" = some "none".toList then []
        else [(Side.errors, records ++ "in\n".toList ++ records ++ "out\n".toList ++
          decimal data.length ++ " bytes copied\n".toList)]
      match pairs.lookup "of" with
      | none => c.effect 0 ((.output, data) :: report)
      | some name =>
        match c.tree.write c.directory (Call.path name) data with
        | .ok tree => { c.effect 0 report with tree := tree }
        | .error fault =>
          c.fail 1 ("failed to open ".toList ++ Call.quoteAlways name ++ [':', ' '] ++
            fault.text.toList)

end Utility

end Bench

end Timekeeper
