import Multilint.FileTree
import Multilint.Machine.Flow
/-!
# Programs

A program is a function of its arguments and of what it finds: the files, the directory it runs in and
its standard input. It writes to two streams, may change files, takes some time, and ends with a status
unless it never ends.
-/

namespace Multilint

/-- What a program finds. -/
structure Surroundings where
  /-- The files. -/
  tree : FileTree
  /-- The directory it runs in. -/
  dir : Path
  /-- Its standard input. -/
  input : Flow
  /-- What the program was called. -/
  called : String := ""

/-- What a program does. -/
structure Effect where
  /-- What it writes to standard output. -/
  out : Flow := {}
  /-- What it writes to standard error. -/
  err : String := ""
  /-- Its status. -/
  status : Nat := 0
  /-- The milliseconds it takes. -/
  pause : Nat := 0
  /-- It never ends. -/
  forever : Bool := false
  /-- It reads its standard input. -/
  reads : Bool := false
  /-- The files after it. -/
  tree : FileTree

/-- A program, run with arguments. -/
abbrev Program := List String → Surroundings → Effect

namespace Surroundings

/-- Nothing but a status. -/
def ended (s : Surroundings) (status : Nat) : Effect :=
  { status, tree := s.tree }

/-- An output. -/
def writes (s : Surroundings) (f : Flow) : Effect :=
  { out := f, forever := f.isEndless, tree := s.tree }

/-- A message, which names the program, and a status that means failure. -/
def complains (s : Surroundings) (message : String) : Effect :=
  { err := s.called ++ ": " ++ message ++ "\n", status := 1, tree := s.tree }

/-- A message about a wrong use of a program. -/
def misused (s : Surroundings) (message : String) : Effect :=
  s.complains (message ++ "\nTry '" ++ s.called ++ " --help' for more information.")

/-- What reading a file gives, or why it cannot be read. -/
def source (s : Surroundings) (name : String) : Except String Flow :=
  match name with
  | "-" | "/dev/stdin" => .ok s.input
  | "/dev/null" => .ok {}
  | "/dev/zero" => .ok ⟨[], [0]⟩
  | _ =>
    match s.tree.resolve s.dir (Path.ofString name) with
    | .ok ⟨_, .file content _⟩ => .ok ⟨content.toList, []⟩
    | .ok _ => .error "Is a directory"
    | .error .missing => .error "No such file or directory"
    | .error .notDirectory => .error "Not a directory"
    | .error .linkLoop => .error "Too many levels of symbolic links"

/-- The names that a path leads to, also where only the last one is missing. -/
def place? (s : Surroundings) (name : String) : Option (List String) :=
  let p := Path.ofString name
  match s.tree.resolve s.dir p with
  | .ok found => some found.names
  | .error _ =>
    match p.segments.reverse with
    | [] => none
    | last :: before =>
      match s.tree.resolve s.dir ⟨p.rooted, if before.isEmpty then ["."] else before.reverse⟩ with
      | .ok ⟨names, .dir _⟩ =>
        if last = "" || last = "." || last = ".." then none else some (names ++ [last])
      | _ => none

end Surroundings

namespace Effect

/-- One thing after another; the later status counts if it is no success. -/
def andThen (a b : Effect) : Effect :=
  { out := a.out ++ b.out, err := a.err ++ b.err, status := if b.status = 0 then a.status else b.status,
    pause := a.pause + b.pause, forever := a.forever || b.forever, reads := a.reads || b.reads,
    tree := b.tree }

end Effect

/-! ## Numbers -/

namespace Program

/-- Milliseconds written as seconds with an optional fraction and an optional unit. -/
def duration? (s : String) : Option Nat :=
  let cs := s.toList
  let (cs, scale) := match cs.reverse with
    | 's' :: r => (r.reverse, 1)
    | 'm' :: r => (r.reverse, 60)
    | 'h' :: r => (r.reverse, 3600)
    | 'd' :: r => (r.reverse, 86400)
    | _ => (cs, 1)
  let whole := cs.takeWhile Char.isDigit
  let part := match cs.drop whole.length with
    | [] => some []
    | '.' :: r => if r.all Char.isDigit then some r else none
    | _ => none
  match part with
  | none => none
  | some part =>
    if whole.isEmpty && part.isEmpty then none
    else
      let digits := whole ++ (part ++ ['0', '0', '0']).take 3
      some (scale * digits.foldl (fun n c => n * 10 + (c.toNat - '0'.toNat)) 0)

/-- `sleep`. -/
def sleep : Program := fun args s =>
  match args with
  | [] => s.misused "missing operand"
  | _ =>
    match args.find? fun a => a ≠ "infinity" && (duration? a).isNone with
    | some bad => s.misused ("invalid time interval '" ++ bad ++ "'")
    | none =>
      { s.ended 0 with
        pause := args.foldr (fun a n => (duration? a).getD 0 + n) 0
        forever := args.contains "infinity" }

/-- `seq`. -/
def seq : Program := fun args s =>
  let number (a : String) : Option Int := a.toInt?
  let range (first step last : Int) : Effect :=
    let count := if step > 0 then (last - first) / step + 1
      else if step < 0 then (first - last) / (-step) + 1 else 0
    s.writes (.ofText (String.join ((List.range count.toNat).map fun (i : Nat) =>
      toString (first + i * step) ++ "\n")))
  match args.map number with
  | [some last] => range 1 1 last
  | [some first, some last] => range first 1 last
  | [some first, some step, some last] => range first step last
  | _ => s.misused "missing operand"

/-- `yes`. -/
def yes : Program := fun args s =>
  s.writes ⟨[], Utf8.bytes ((if args.isEmpty then "y" else " ".intercalate args) ++ "\n")⟩

/-! ## Contents of files -/

/-- Goes through files, or through the input where none is named. `show` gives what is written for one
content, or nothing where that never comes to an end. -/
def eachFile (wording : String → String → String) (files : List String)
    (present : Option String → Flow → Option Flow) (s : Surroundings) : Effect :=
  let one (f : String) : Effect :=
    match s.source f with
    | .error why => s.complains (wording f why)
    | .ok flow =>
      let e := match present (some f) flow with
        | some out => s.writes out
        | none => { s.ended 0 with forever := true }
      { e with reads := f = "-" || f = "/dev/stdin" }
  match files with
  | [] =>
    match present none s.input with
    | some out => { s.writes out with reads := true }
    | none => { s.ended 0 with forever := true, reads := true }
  | fs => (fs.map one).foldl Effect.andThen (s.ended 0)

/-- `cat`. -/
def cat : Program := fun args s =>
  eachFile (fun f why => f ++ ": " ++ why) (args.filter (· ≠ "-u")) (fun _ flow => some flow) s

/-- How much of a file `head` and `tail` write. -/
inductive Amount where
  /-- A number of lines. -/
  | lines (n : Nat)
  /-- Lines from a place on, the first one being one. -/
  | linesFrom (n : Nat)
  /-- A number of bytes. -/
  | bytes (n : Nat)
  /-- Bytes from a place on. -/
  | bytesFrom (n : Nat)
  /-- All lines but a number of last ones. -/
  | linesBut (n : Nat)
  /-- All bytes but a number of last ones. -/
  | bytesBut (n : Nat)

/-- The amount a number says: of lines or of bytes, behind a plus sign from that place on, behind a minus
sign all but so many. -/
def Amount.ofText? (lines : Bool) (text : String) : Option Amount :=
  match text.toList with
  | '+' :: ds => (String.ofList ds).toNat?.map fun n => if lines then .linesFrom n else .bytesFrom n
  | '-' :: ds => (String.ofList ds).toNat?.map fun n => if lines then .linesBut n else .bytesBut n
  | ds => (String.ofList ds).toNat?.map fun n => if lines then .lines n else .bytes n

/-- The amount of an option that holds its number: nothing for what is no option. -/
def Amount.ofOption? (w : String) : Option (Option Amount) :=
  match w.toList with
  | '-' :: 'n' :: ds => some (ofText? true (String.ofList ds))
  | '-' :: 'c' :: ds => some (ofText? false (String.ofList ds))
  | '-' :: d :: ds =>
    some (if (d :: ds).all Char.isDigit then ofText? true (String.ofList (d :: ds)) else none)
  | _ => none

/-- Reads how much is to be written, and the files. -/
def amount? (a : Amount) : List String → Option (Amount × List String)
  | [] => some (a, [])
  | "-n" :: v :: rest => (Amount.ofText? true v).bind fun a => amount? a rest
  | "-c" :: v :: rest => (Amount.ofText? false v).bind fun a => amount? a rest
  | w :: rest =>
    match Amount.ofOption? w with
    | some option => option.bind fun a => amount? a rest
    | none => (amount? a rest).map fun (a, fs) => (a, w :: fs)

/-- Files with headings, if there are several of them. -/
def withHeadings (files : List String) (present : Flow → Option (List UInt8))
    (s : Surroundings) : Effect :=
  let heading (f : Option String) : Flow :=
    if files.length > 1 then
      .ofText ((if f = files.head? then "" else "\n") ++ "==> " ++ f.getD "" ++ " <==\n")
    else {}
  eachFile (fun f why => "cannot open '" ++ f ++ "' for reading: " ++ why) files
    (fun f flow => (present flow).map fun bytes => heading f ++ ⟨bytes, []⟩) s

/-- `head`. -/
def head : Program := fun args s =>
  match amount? (.lines 10) args with
  | none => s.misused "invalid option"
  | some (a, files) =>
    withHeadings files (fun flow =>
      match a with
      | .lines n | .linesFrom n => flow.takeLines? n
      | .bytes n | .bytesFrom n => some (flow.take n)
      | .linesBut n =>
        let ls := Flow.lines flow.bytes
        if flow.isEndless then none else some (ls.take (ls.length - n)).flatten
      | .bytesBut n =>
        if flow.isEndless then none else some (flow.bytes.take (flow.bytes.length - n))) s

/-- The last elements of a list. -/
def lastOf {α : Type} (n : Nat) (xs : List α) : List α :=
  xs.drop (xs.length - n)

/-- `tail`. -/
def tail : Program := fun args s =>
  match amount? (.lines 10) args with
  | none => s.misused "invalid option"
  | some (a, files) =>
    withHeadings files (fun flow =>
      if flow.isEndless then none
      else
        some <| match a with
          | .lines n | .linesBut n => (lastOf n (Flow.lines flow.bytes)).flatten
          | .linesFrom n => ((Flow.lines flow.bytes).drop (n - 1)).flatten
          | .bytes n | .bytesBut n => lastOf n flow.bytes
          | .bytesFrom n => flow.bytes.drop (n - 1)) s

/-- Whether a byte is a blank. -/
def isBlankByte (b : UInt8) : Bool :=
  b = 32 || (9 ≤ b && b ≤ 13)

/-- The number of words of bytes. -/
def wordCount (bytes : List UInt8) : Nat :=
  (bytes.foldl (fun (n, inside) b =>
    if isBlankByte b then (n, false) else (if inside then n else n + 1, true)) (0, false)).1

/-- `wc`. -/
def wc : Program := fun args s =>
  let (options, files) := args.partition fun a => a.startsWith "-" && a ≠ "-"
  let chosen := options.flatMap fun o => o.toList.drop 1
  let chosen := if chosen.isEmpty then ['l', 'w', 'c'] else chosen
  eachFile (fun f why => f ++ ": " ++ why) files (fun f flow =>
    if flow.isEndless then none
    else
      let counts :=
        (if chosen.contains 'l' then [flow.bytes.count Flow.newline] else []) ++
        (if chosen.contains 'w' then [wordCount flow.bytes] else []) ++
        (if chosen.contains 'c' || chosen.contains 'm' then [flow.bytes.length] else [])
      let width := if counts.length ≤ 1 then 1 else if f.isNone then 7
        else (toString flow.bytes.length).length
      let cell (n : Nat) : String :=
        let t := toString n
        String.ofList (List.replicate (width - t.length) ' ') ++ t
      some (.ofText (" ".intercalate (counts.map cell ++ f.toList) ++ "\n"))) s

/-- The number a line starts with. -/
def lineNumber (l : List UInt8) : Int :=
  let cs := l.map fun b => Char.ofNat b.toNat
  let cs := cs.dropWhile (· = ' ')
  let value (ds : List Char) : Int :=
    (ds.takeWhile Char.isDigit).foldl (fun (n : Int) c => n * 10 + (c.toNat - '0'.toNat)) 0
  match cs with
  | '-' :: ds => -(value ds)
  | ds => value ds

/-- `sort`. -/
def sort : Program := fun args s =>
  let (options, files) := args.partition fun a => a.startsWith "-" && a ≠ "-"
  let chosen := options.flatMap fun o => o.toList.drop 1
  let ended (l : List UInt8) : List UInt8 :=
    if l.getLast? = some Flow.newline then l else l ++ [Flow.newline]
  let before (a b : List UInt8) : Bool :=
    if chosen.contains 'n' && lineNumber a ≠ lineNumber b then lineNumber a < lineNumber b
    else Flow.notAfter a b
  let contents := eachFile (fun f why => "cannot read: " ++ f ++ ": " ++ why) files
    (fun _ flow => if flow.isEndless then none else some flow) s
  let sorted := ((Flow.lines contents.out.bytes).map ended).mergeSort
    (if chosen.contains 'r' then fun a b => before b a else before)
  let sorted := if chosen.contains 'u' then sorted.eraseReps else sorted
  if contents.status ≠ 0 then { contents with out := {}, status := 2 }
  else { contents with out := ⟨sorted.flatten, []⟩ }

/-! ## Bytes for bytes -/

/-- The bytes of a named class. -/
def byteClass : String → List UInt8
  | "upper" => (List.range 26).map fun i => UInt8.ofNat (65 + i)
  | "lower" => (List.range 26).map fun i => UInt8.ofNat (97 + i)
  | "alpha" => (List.range 26).map (fun i => UInt8.ofNat (65 + i)) ++
      (List.range 26).map fun i => UInt8.ofNat (97 + i)
  | "digit" => (List.range 10).map fun i => UInt8.ofNat (48 + i)
  | "space" => [9, 10, 11, 12, 13, 32]
  | _ => []

/-- The bytes of a set, of at most so many characters: escapes, classes, ranges and single bytes. -/
def byteSet : Nat → List UInt8 → List UInt8
  | 0, _ => []
  | n + 1, cs =>
    let isOctal (b : UInt8) : Bool := 48 ≤ b && b ≤ 55
    match cs with
    | [] => []
    | 91 :: 58 :: rest =>
      let name := rest.takeWhile (· ≠ 58)
      match rest.drop name.length with
      | 58 :: 93 :: rest => byteClass (Utf8.text name) ++ byteSet n rest
      | _ => 91 :: byteSet n (58 :: rest)
    | 92 :: c :: rest =>
      if isOctal c then
        let ds := c :: (rest.takeWhile isOctal).take 2
        UInt8.ofNat (ds.foldl (fun v d => v * 8 + (d.toNat - 48)) 0) ::
          byteSet n (rest.drop (ds.length - 1))
      else
        let b : UInt8 := match Char.ofNat c.toNat with
          | 'a' => 7 | 'b' => 8 | 't' => 9 | 'n' => 10 | 'v' => 11 | 'f' => 12 | 'r' => 13
          | _ => c
        b :: byteSet n rest
    | a :: 45 :: b :: rest =>
      (List.range (b.toNat + 1 - a.toNat)).map (fun i => UInt8.ofNat (a.toNat + i)) ++ byteSet n rest
    | b :: rest => b :: byteSet n rest

/-- `tr`. -/
def tr : Program := fun args s =>
  let set (text : String) : List UInt8 := let bs := Utf8.bytes text; byteSet (bs.length + 1) bs
  match args with
  | ["-d", a] =>
    let gone := set a
    { s.writes (s.input.filterMap fun b => if gone.contains b then none else some b) with reads := true }
  | [a, b] =>
    let old := set a
    let new := set b
    let last := new.getLast?.getD 0
    let out := s.input.filterMap fun x =>
      match old.idxOf? x with
      | some i => some (new[i]?.getD last)
      | none => some x
    { s.writes out with reads := true }
  | _ => s.misused "missing operand"

/-! ## Directories -/

/-- The names of a directory in order, without the hidden ones. -/
def listing (hidden : Bool) (es : List (String × FileTree)) : List String :=
  let names := es.map (·.1)
  let names := if hidden then names else names.filter fun n => !n.startsWith "."
  names.mergeSort fun a b => Flow.notAfter (Utf8.bytes a) (Utf8.bytes b)

/-- `ls`, as it writes when nobody looks on. -/
def ls : Program := fun args s =>
  let (options, names) := args.partition fun a => a.startsWith "-" && a ≠ "-"
  let chosen := options.flatMap fun o => o.toList.drop 1
  let names := if names.isEmpty then ["."] else names
  let all := chosen.contains 'a'
  let hidden := all || chosen.contains 'A'
  let lines (ns : List String) : Flow := .ofText (String.join (ns.map (· ++ "\n")))
  let entries (es : List (String × FileTree)) : List String :=
    (if all then [".", ".."] else []) ++ listing hidden es
  let look (n : String) := s.tree.resolve s.dir (Path.ofString n)
  let missing := names.filterMap fun n => match look n with
    | .error .notDirectory => some (s.called ++ ": cannot access '" ++ n ++ "': Not a directory\n")
    | .error _ => some (s.called ++ ": cannot access '" ++ n ++ "': No such file or directory\n")
    | .ok _ => none
  let dirs := names.filterMap fun n => match look n with
    | .ok ⟨_, .dir es⟩ => if chosen.contains 'd' then none else some (n, es)
    | _ => none
  let others := names.filter fun n => (look n).toOption.isSome && !dirs.any (·.1 = n)
  let block (d : String × List (String × FileTree)) : Flow :=
    if names.length > 1 then .ofText (d.1 ++ ":\n") ++ lines (entries d.2) else lines (entries d.2)
  let blocks := (if others.isEmpty then [] else [lines others]) ++ dirs.map block
  let out := match blocks with
    | [] => ({} : Flow)
    | b :: bs => bs.foldl (fun f g => f ++ Flow.ofText "\n" ++ g) b
  { out, err := String.join missing, status := if missing.isEmpty then 0 else 2, tree := s.tree }

/-- `pwd`. -/
def pwd : Program := fun _ s =>
  s.writes (.ofText (s.dir.toString ++ "\n"))

/-- `touch`. -/
def touch : Program := fun args s =>
  (args.map fun f => (f, s.place? f)).foldl (fun e (f, place) =>
    match place with
    | none => e.andThen { s.complains ("cannot touch '" ++ f ++ "': No such file or directory") with
        tree := e.tree }
    | some names =>
      if (e.tree.at? names).isSome then e
      else { e with tree := FileTree.insert (.file ⟨#[]⟩ false) names e.tree }) (s.ended 0)

/-- `mkdir`. -/
def mkdir : Program := fun args s =>
  let (options, names) := args.partition fun a => a.startsWith "-"
  let parents := options.contains "-p"
  names.foldl (fun e f =>
    let now : Surroundings := { s with tree := e.tree }
    let fail (why : String) : Effect :=
      e.andThen { now.complains ("cannot create directory '" ++ f ++ "': " ++ why) with
        tree := e.tree }
    if parents then
      let p := Path.absolute s.dir (Path.ofString f)
      if e.tree.isDir s.dir p then e else { e with tree := FileTree.insert (.dir []) p.names e.tree }
    else
      match now.place? f with
      | none => fail "No such file or directory"
      | some names =>
        if (e.tree.at? names).isSome then fail "File exists"
        else { e with tree := FileTree.insert (.dir []) names e.tree }) (s.ended 0)

/-- `rm`. -/
def rm : Program := fun args s =>
  let (options, names) := args.partition fun a => a.startsWith "-"
  let chosen := options.flatMap fun o => o.toList.drop 1
  names.foldl (fun e f =>
    let fail (why : String) : Effect :=
      e.andThen { s.complains ("cannot remove '" ++ f ++ "': " ++ why) with tree := e.tree }
    match e.tree.resolveEntry s.dir (Path.ofString f) with
    | .error _ => if chosen.contains 'f' then e else fail "No such file or directory"
    | .ok ⟨names, .dir _⟩ =>
      if chosen.contains 'r' || chosen.contains 'R' then { e with tree := e.tree.remove names }
      else fail "Is a directory"
    | .ok ⟨names, _⟩ => { e with tree := e.tree.remove names }) (s.ended 0)

/-- Copies a file; the flag says whether the old one goes away. -/
def copy (away : Bool) : Program := fun args s =>
  match args.filter fun a => !a.startsWith "-" with
  | [source, target] =>
    match s.tree.resolve s.dir (Path.ofString source), s.place? target with
    | .ok ⟨old, .file content executable⟩, some names =>
      let names := match s.tree.at? names with
        | some (.dir _) => names ++ old.getLast?.toList
        | _ => names
      let tree := if away then s.tree.remove old else s.tree
      { s.ended 0 with tree := FileTree.insert (.file content executable) names tree }
    | .ok ⟨_, .dir _⟩, _ =>
      s.complains ("-r not specified; omitting directory '" ++ source ++ "'")
    | .ok _, _ =>
      s.complains ("cannot create regular file '" ++ target ++ "': No such file or directory")
    | .error _, _ => s.complains ("cannot stat '" ++ source ++ "': No such file or directory")
  | _ => s.misused "missing file operand"

/-- `basename`. -/
def basename : Program := fun args s =>
  match args with
  | f :: rest =>
    let name := (Path.ofString f).segments.filter (· ≠ "") |>.getLast?.getD "/"
    let name := match rest with
      | ending :: _ => if name ≠ ending && name.endsWith ending then
          (name.dropEnd ending.length).toString else name
      | [] => name
    s.writes (.ofText (name ++ "\n"))
  | [] => s.misused "missing operand"

/-- `dirname`. -/
def dirname : Program := fun args s =>
  match args with
  | f :: _ =>
    let p := Path.ofString f
    let above := ((p.segments.reverse.dropWhile (· = "")).drop 1).dropWhile (· = "")
    let text := (Path.mk p.rooted above.reverse).toString
    s.writes (.ofText ((if text = "" then "." else text) ++ "\n"))
  | [] => s.misused "missing operand"

/-- The programs of files and streams, by name. -/
def table : List (String × Program) :=
  [("cat", cat), ("head", head), ("tail", tail), ("tr", tr), ("wc", wc), ("sort", sort), ("ls", ls),
    ("sleep", sleep), ("seq", seq), ("yes", yes), ("touch", touch), ("mkdir", mkdir), ("rm", rm),
    ("cp", copy false), ("mv", copy true), ("basename", basename), ("dirname", dirname)]

end Program

end Multilint
