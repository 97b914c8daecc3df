import Dialogue.Tool.Awk.Token

/-!
# Reading programs

The words of a program are read as rules and functions (`Program.ofText`). Operators bind in ranks;
texts that stand side by side are joined, which binds less than a sum and more than a comparison. In
what is printed, some symbols tell where it is printed to.
-/

set_option autoImplicit false
set_option relaxedAutoImplicit false

namespace Dialogue.Tool.Awk

/-- Where something is read. -/
structure Setting where
  /-- Whether it is printed, outside of all parentheses. -/
  isPrinted : Bool
  inFunction : Bool
  inLoop : Bool
  deriving Repr, DecidableEq, Inhabited

namespace Setting

/-- Within parentheses, or where nothing is printed. -/
def plain (setting : Setting) : Setting := { setting with isPrinted := false }

/-- In the body of a loop. -/
def looping (setting : Setting) : Setting := { setting with inLoop := true }

end Setting

/-- What is read from words, or what is wrong with them. -/
abbrev Reading (α : Type) := Except Flaw α

/-- A part that was read, and the words behind it. -/
abbrev Part (α : Type) := α × List Token

/-- Words without the line breaks in front of them. -/
def skipBreaks : List Token → List Token
  | .lineBreak :: rest => skipBreaks rest
  | words => words

/-- The words behind a symbol that must come next. -/
def expect (symbol : String) (words : List Token) : Except Flaw (List Token) :=
  match words with
  | .symbol found :: rest =>
    if found == symbol then
      .ok (if symbol == "," || symbol == "\x7b" then skipBreaks rest else rest)
    else .error (.unexpected words)
  | _ => .error (.unexpected words)

/-- Whether a symbol comes next. -/
def nextIs (symbol : String) (words : List Token) : Bool :=
  words.head? == some (.symbol symbol)

/-- Whether an expression can be assigned to. -/
def Expr.isPlace : Expr → Bool
  | named _ | field _ | element _ _ => true
  | _ => false

/-- The parts of an expression that stands in parentheses. -/
def Expr.parts : Expr → List Expr
  | group parts => parts
  | expr => [expr]

/-- The symbols that assign, with the operations that they do before. -/
def assignments : List (String × Option Arithmetic) :=
  [("=", none), ("+=", some .add), ("-=", some .subtract), ("*=", some .multiply),
    ("/=", some .divide), ("%=", some .remainder), ("^=", some .power)]

/-- An operator between two expressions, with what they make together. -/
abbrev Operator := String × (Expr → Expr → Expr)

/-- The operators that bind less than texts side by side, the weakest ones first. -/
def looseRanks (isPrinted : Bool) : List (List Operator) :=
  [[("||", .either)], [("&&", .both)], [], [("~", .isMatch false), ("!~", .isMatch true)],
    [("<", .compare .less), ("<=", .compare .lessEqual), ("==", .compare .equal),
      ("!=", .compare .different)]
      ++ if isPrinted then [] else [(">", .compare .greater), (">=", .compare .greaterEqual)]]

/-- The operators that bind more than texts side by side, the weaker ones first. -/
def tightRanks : List (List Operator) :=
  [[("+", .arithmetic .add), ("-", .arithmetic .subtract)],
    [("*", .arithmetic .multiply), ("/", .arithmetic .divide), ("%", .arithmetic .remainder)]]

/-- Whether a word may begin a text that is joined to the one before it. -/
def Token.beginsText : Token → Bool
  | .number _ | .text _ | .pattern _ | .name _ | .function _ | .builtin _ => true
  | .symbol mark => ["(", "$", "!", "-", "+", "++", "--"].contains mark
  | _ => false

/-- The operator of a rank that comes next. -/
def operatorOf? (rank : List Operator) : List Token → Option ((Expr → Expr → Expr) × List Token)
  | .symbol mark :: rest =>
    (rank.lookup mark).map fun build ↦
      (build, if mark == "&&" || mark == "||" then skipBreaks rest else rest)
  | _ => none

/-! ### Expressions -/

mutual

/-- Reads an expression. -/
def readExpr (setting : Setting) (words : List Token) : Nat → Reading (Part Expr)
  | 0 => .error (.unexpected words)
  | fuel + 1 => do
    let (condition, rest) ← readLoose setting (looseRanks setting.isPrinted) words fuel
    if !nextIs "?" rest then return (condition, rest)
    else
      let (whenTrue, rest) ← readExpr setting (rest.drop 1) fuel
      let (whenFalse, rest) ← readExpr setting (← expect ":" rest) fuel
      return (.choice condition whenTrue whenFalse, rest)
termination_by structural fuel => fuel

/-- Reads operands that are joined by operators of the first of some ranks or of later ones. -/
def readLoose (setting : Setting) (ranks : List (List Operator)) (words : List Token) :
    Nat → Reading (Part Expr)
  | 0 => .error (.unexpected words)
  | fuel + 1 => do
    match ranks with
    | [] =>
      let (place, rest) ← readJoined setting words fuel
      match place.isPlace, rest with
      | true, .symbol mark :: more =>
        match assignments.lookup mark with
        | some operation =>
          let (value, rest) ← readExpr setting more fuel
          return (.assign operation place value, rest)
        | none => return (place, rest)
      | _, _ => return (place, rest)
    | rank :: ranks =>
      let (first, rest) ← readLoose setting ranks words fuel
      readMore setting rank ranks first rest fuel
termination_by structural fuel => fuel

/-- Reads on behind an operand, as long as operators of a rank follow. The rank without operators is
that of the word `in`. -/
def readMore (setting : Setting) (rank : List Operator) (ranks : List (List Operator))
    (first : Expr) (words : List Token) : Nat → Reading (Part Expr)
  | 0 => .error (.unexpected words)
  | fuel + 1 => do
    match operatorOf? rank words, words with
    | some (build, rest), _ =>
      let (second, rest) ← readLoose setting ranks rest fuel
      readMore setting rank ranks (build first second) rest fuel
    | none, .keyword "in" :: .name name :: rest =>
      if rank.isEmpty then readMore setting rank ranks (.isIn first.parts name) rest fuel
      else return (first, words)
    | _, _ => return (first, words)
termination_by structural fuel => fuel

/-- Reads texts side by side. -/
def readJoined (setting : Setting) (words : List Token) : Nat → Reading (Part Expr)
  | 0 => .error (.unexpected words)
  | fuel + 1 => do
    let (first, rest) ← readTight setting tightRanks words fuel
    readSide setting first rest fuel
termination_by structural fuel => fuel

/-- Reads on behind a text, as long as more of them stand at its side. -/
def readSide (setting : Setting) (first : Expr) (words : List Token) : Nat → Reading (Part Expr)
  | 0 => .error (.unexpected words)
  | fuel + 1 => do
    if words.head?.any Token.beginsText then
      let (second, rest) ← readTight setting tightRanks words fuel
      readSide setting (.join first second) rest fuel
    else return (first, words)
termination_by structural fuel => fuel

/-- Reads operands that are joined by operators of the first of some ranks or of later ones, all of
which bind more than texts side by side. -/
def readTight (setting : Setting) (ranks : List (List Operator)) (words : List Token) :
    Nat → Reading (Part Expr)
  | 0 => .error (.unexpected words)
  | fuel + 1 => do
    match ranks with
    | [] => readSigned setting words fuel
    | rank :: ranks =>
      let (first, rest) ← readTight setting ranks words fuel
      readChain setting rank ranks first rest fuel
termination_by structural fuel => fuel

/-- Reads on behind an operand of an operator that binds more than texts side by side. -/
def readChain (setting : Setting) (rank : List Operator) (ranks : List (List Operator))
    (first : Expr) (words : List Token) : Nat → Reading (Part Expr)
  | 0 => .error (.unexpected words)
  | fuel + 1 => do
    match operatorOf? rank words with
    | some (build, rest) =>
      let (second, rest) ← readTight setting ranks rest fuel
      readChain setting rank ranks (build first second) rest fuel
    | none => return (first, words)
termination_by structural fuel => fuel

/-- Reads an expression with signs in front, or less. -/
def readSigned (setting : Setting) (words : List Token) : Nat → Reading (Part Expr)
  | 0 => .error (.unexpected words)
  | fuel + 1 => do
    match words with
    | .symbol "!" :: rest =>
      let (inner, rest) ← readSigned setting rest fuel
      return (.negation inner, rest)
    | .symbol "-" :: rest =>
      let (inner, rest) ← readSigned setting rest fuel
      return (.minus inner, rest)
    | .symbol "+" :: rest =>
      let (inner, rest) ← readSigned setting rest fuel
      return (.plus inner, rest)
    | _ =>
      let (first, rest) ← readPower setting words fuel
      readCommand setting first rest fuel
termination_by structural fuel => fuel

/-- Reads on behind a command, as long as lines are read from it. -/
def readCommand (setting : Setting) (command : Expr) (words : List Token) :
    Nat → Reading (Part Expr)
  | 0 => .error (.unexpected words)
  | fuel + 1 => do
    match words with
    | .symbol "|" :: .keyword "getline" :: rest =>
      if setting.isPrinted then return (command, words)
      let (target, rest) ← readTarget setting rest fuel
      readCommand setting (.readLine .command (some command) target) rest fuel
    | _ => return (command, words)
termination_by structural fuel => fuel

/-- Reads a power, or less. -/
def readPower (setting : Setting) (words : List Token) : Nat → Reading (Part Expr)
  | 0 => .error (.unexpected words)
  | fuel + 1 => do
    let (base, rest) ← readStep setting words fuel
    match rest with
    | .symbol "^" :: rest =>
      let isSigned := ["-", "+", "!"].any fun sign ↦ nextIs sign rest
      let (exponent, rest) ←
        if isSigned then readSigned setting rest fuel else readPower setting rest fuel
      return (.arithmetic .power base exponent, rest)
    | _ => return (base, rest)
termination_by structural fuel => fuel

/-- Reads a value, with one added or taken away behind it. -/
def readStep (setting : Setting) (words : List Token) : Nat → Reading (Part Expr)
  | 0 => .error (.unexpected words)
  | fuel + 1 => do
    let (value, rest) ← readValue setting words fuel
    match value.isPlace, rest with
    | true, .symbol "++" :: rest => return (.step true true value, rest)
    | true, .symbol "--" :: rest => return (.step true false value, rest)
    | _, _ => return (value, rest)
termination_by structural fuel => fuel

/-- Reads the place that a line is read to, if there is one. -/
def readTarget (setting : Setting) (words : List Token) : Nat → Reading (Part (Option Expr))
  | 0 => .error (.unexpected words)
  | fuel + 1 => do
    match words with
    | .name _ :: _ | .symbol "$" :: _ =>
      let (target, rest) ← readValue setting words fuel
      return (some target, rest)
    | _ => return (none, words)
termination_by structural fuel => fuel

/-- Reads expressions with commas between them, up to a symbol that ends them. -/
def readList (setting : Setting) (close : String) (words : List Token) :
    Nat → Reading (Part (List Expr))
  | 0 => .error (.unexpected words)
  | fuel + 1 => do
    if nextIs close words then return ([], words.drop 1)
    let (first, rest) ← readExpr setting words fuel
    if nextIs close rest then return ([first], rest.drop 1)
    let rest ← expect "," rest
    if nextIs close rest then throw (.unexpected rest)
    let (others, rest) ← readList setting close rest fuel
    return (first :: others, rest)
termination_by structural fuel => fuel

/-- Reads a value without operators behind it. -/
def readValue (setting : Setting) (words : List Token) : Nat → Reading (Part Expr)
  | 0 => .error (.unexpected words)
  | fuel + 1 => do
    let inside := setting.plain
    match words with
    | .number value :: rest => return (.number value, rest)
    | .text value :: rest => return (.text value, rest)
    | .pattern text :: rest => return (.pattern (← patternOf text), rest)
    | .name name :: .symbol "[" :: rest =>
      let (subscript, more) ← readList inside "]" rest fuel
      if subscript.isEmpty then throw (.unexpected rest)
      return (.element name subscript, more)
    | .name name :: rest => return (.named name, rest)
    | .function name :: rest =>
      let (arguments, rest) ← readList inside ")" (← expect "(" rest) fuel
      return (.call name arguments, rest)
    | .builtin name :: rest =>
      if nextIs "(" rest then
        let (arguments, rest) ← readList inside ")" (rest.drop 1) fuel
        return (.builtin name arguments, rest)
      else if name == "length" then return (.builtin name [], rest)
      else throw (.unexpected rest)
    | .symbol "$" :: rest =>
      let isSigned := ["-", "+", "!"].any fun sign ↦ nextIs sign rest
      let (index, rest) ←
        if isSigned then readSigned setting rest fuel else readValue setting rest fuel
      return (.field index, rest)
    | .symbol "++" :: rest =>
      let (target, more) ← readValue setting rest fuel
      if target.isPlace then return (.step false true target, more) else throw (.unexpected rest)
    | .symbol "--" :: rest =>
      let (target, more) ← readValue setting rest fuel
      if target.isPlace then return (.step false false target, more) else throw (.unexpected rest)
    | .symbol "(" :: rest =>
      let (parts, more) ← readList inside ")" rest fuel
      let isSubscript := more.head? == some (.keyword "in")
      if parts.isEmpty || (1 < parts.length && !setting.isPrinted && !isSubscript) then
        throw (.unexpected rest)
      return (.group parts, more)
    | .keyword "getline" :: rest =>
      let (target, rest) ← readTarget setting rest fuel
      match rest with
      | .symbol "<" :: rest =>
        let (place, rest) ← readStep setting rest fuel
        return (.readLine .file (some place) target, rest)
      | _ => return (.readLine .input none target, rest)
    | _ => throw (.unexpected words)
termination_by structural fuel => fuel

end

/-! ### Statements -/

/-- The words behind the end of a statement. A brace that follows ends it, too. -/
def endStatement (words : List Token) : Except Flaw (List Token) :=
  match words with
  | .symbol ";" :: rest | .lineBreak :: rest => .ok (skipBreaks rest)
  | .symbol "\x7d" :: _ => .ok words
  | _ => .error (.unexpected words)

/-- Whether the end of a statement comes next. -/
def isEnd (words : List Token) : Bool :=
  words.isEmpty || nextIs ";" words || nextIs "\x7d" words || words.head? == some .lineBreak

/-- Reads an expression, if there is one in front of the end of a statement. -/
def readIfAny (setting : Setting) (words : List Token) (fuel : Nat) :
    Reading (Part (Option Expr)) :=
  if isEnd words then .ok (none, words)
  else do
    let (expr, rest) ← readExpr setting words fuel
    return (some expr, rest)

/-- Reads what is printed: expressions with commas between them, up to the end of the statement. The
fuel is the number of words. -/
def readPrinted (setting : Setting) (words : List Token) : Nat → Reading (Part (List Expr))
  | 0 => .error (.unexpected words)
  | fuel + 1 => do
    let (first, rest) ← readExpr setting words (16 * words.length + 64)
    if nextIs "," rest then
      let (others, rest) ← readPrinted setting (skipBreaks (rest.drop 1)) fuel
      return (first :: others, rest)
    else return ([first], rest)

/-- Reads what is printed and where. -/
def readOutput (setting : Setting) (words : List Token) :
    Reading (Part (List Expr × Option (Destination × Expr))) := do
  let isBare := isEnd words || [">", ">>", "|"].any fun mark ↦ nextIs mark words
  let (arguments, rest) ←
    if isBare then pure ([], words)
    else readPrinted { setting with isPrinted := true } words (words.length + 1)
  let arguments := match arguments with
    | [.group parts] => parts
    | arguments => arguments
  let placed (destination : Destination) (rest : List Token) :
      Reading (Part (List Expr × Option (Destination × Expr))) := do
    let (place, rest) ← readExpr setting rest (16 * rest.length + 64)
    return ((arguments, some (destination, place)), rest)
  match rest with
  | .symbol ">" :: rest => placed .write rest
  | .symbol ">>" :: rest => placed .append rest
  | .symbol "|" :: rest => placed .command rest
  | _ => return ((arguments, none), rest)

/-- Reads a statement that has no others in it, without its end. -/
def readSimple (setting : Setting) (words : List Token) : Reading (Part Statement) := do
  let fuel := 16 * words.length + 64
  let jump (word : String) (statement : Statement) (rest : List Token) : Reading (Part Statement) :=
    if setting.inLoop then .ok (statement, rest) else .error (.strayJump word)
  match words with
  | .keyword "print" :: rest =>
    let ((arguments, place), rest) ← readOutput setting rest
    return (.print arguments place, rest)
  | .keyword "printf" :: rest =>
    let ((arguments, place), more) ← readOutput setting rest
    if arguments.isEmpty then throw (.unexpected rest)
    return (.printFormat arguments place, more)
  | .keyword "next" :: rest => return (.nextRecord, rest)
  | .keyword "nextfile" :: rest => return (.nextFile, rest)
  | .keyword "exit" :: rest =>
    let (status, rest) ← readIfAny setting rest fuel
    return (.exit status, rest)
  | .keyword "return" :: rest =>
    if !setting.inFunction then throw .strayReturn
    let (value, rest) ← readIfAny setting rest fuel
    return (.give value, rest)
  | .keyword "break" :: rest => jump "break" .leave rest
  | .keyword "continue" :: rest => jump "continue" .goOn rest
  | .keyword "delete" :: .name name :: .symbol "[" :: rest =>
    let (subscript, rest) ← readList setting "]" rest fuel
    return (.delete name subscript, rest)
  | .keyword "delete" :: .name name :: rest => return (.delete name [], rest)
  | _ =>
    let (expr, rest) ← readExpr setting words fuel
    return (.value expr, rest)

/-- Reads a condition in parentheses. -/
def readCondition (setting : Setting) (words : List Token) : Reading (Part Expr) := do
  let (condition, rest) ← readExpr setting (← expect "(" words) (16 * words.length + 64)
  return (condition, ← expect ")" rest)

/-- Reads a statement in the head of a loop, if there is one in front of a symbol. -/
def readHead (setting : Setting) (close : String) (words : List Token) :
    Reading (Part (Option Statement)) := do
  if nextIs close words then return (none, words.drop 1)
  let (statement, rest) ← readSimple setting words
  return (some statement, ← expect close rest)

mutual

/-- Reads a statement with its end. -/
def readStatement (setting : Setting) (words : List Token) : Nat → Reading (Part Statement)
  | 0 => .error (.unexpected words)
  | fuel + 1 => do
    match words with
    | .symbol "\x7b" :: rest =>
      let (statements, rest) ← readBlock setting (skipBreaks rest) fuel
      return (.block statements, skipBreaks rest)
    | .symbol ";" :: rest => return (.block [], skipBreaks rest)
    | .keyword "if" :: rest =>
      let (condition, rest) ← readCondition setting rest
      let (whenTrue, rest) ← readStatement setting (skipBreaks rest) fuel
      match rest with
      | .keyword "else" :: rest =>
        let (whenFalse, rest) ← readStatement setting (skipBreaks rest) fuel
        return (.choice condition whenTrue (some whenFalse), rest)
      | _ => return (.choice condition whenTrue none, rest)
    | .keyword "while" :: rest =>
      let (condition, rest) ← readCondition setting rest
      let (body, rest) ← readStatement setting.looping (skipBreaks rest) fuel
      return (.loop condition body, rest)
    | .keyword "do" :: rest =>
      let (body, rest) ← readStatement setting.looping (skipBreaks rest) fuel
      match rest with
      | .keyword "while" :: rest =>
        let (condition, rest) ← readCondition setting rest
        return (.loopOnce body condition, ← endStatement rest)
      | _ => throw (.unexpected rest)
    | .keyword "for" :: .symbol "(" :: .name name :: .keyword "in" :: .name array :: .symbol ")"
        :: rest =>
      let (body, rest) ← readStatement setting.looping (skipBreaks rest) fuel
      return (.loopOver name array body, rest)
    | .keyword "for" :: rest =>
      let (start, rest) ← readHead setting ";" (← expect "(" rest)
      let rest := skipBreaks rest
      let (condition, rest) ←
        if nextIs ";" rest then pure (none, rest)
        else readIfAny setting rest (16 * rest.length + 64)
      let (step, rest) ← readHead setting ")" (skipBreaks (← expect ";" rest))
      let (body, rest) ← readStatement setting.looping (skipBreaks rest) fuel
      return (.loopWith start condition step body, rest)
    | _ =>
      let (statement, rest) ← readSimple setting words
      return (statement, ← endStatement rest)
termination_by structural fuel => fuel

/-- Reads statements up to a closing brace. -/
def readBlock (setting : Setting) (words : List Token) : Nat → Reading (Part (List Statement))
  | 0 => .error (.unexpected words)
  | fuel + 1 => do
    match words with
    | .symbol "\x7d" :: rest => return ([], rest)
    | .lineBreak :: rest => readBlock setting rest fuel
    | _ =>
      let (statement, rest) ← readStatement setting words fuel
      let (others, rest) ← readBlock setting rest fuel
      return (statement :: others, rest)
termination_by structural fuel => fuel

end

/-! ### Programs -/

/-- Reads a statement in braces. -/
def readBody (setting : Setting) (words : List Token) : Reading (Part Statement) :=
  if nextIs "\x7b" words then readStatement setting words (words.length + 1)
  else .error (.unexpected words)

/-- Reads the names of parameters, up to a closing parenthesis. -/
def readParameters : List Token → Reading (Part (List Text))
  | .symbol ")" :: rest => .ok ([], rest)
  | .lineBreak :: rest => readParameters rest
  | .name name :: .symbol ")" :: rest => .ok ([name], rest)
  | .name name :: .symbol "," :: rest => do
    let (others, rest) ← readParameters rest
    if others.contains name then throw (.unexpected rest)
    return (name :: others, rest)
  | words => .error (.unexpected words)

/-- Reads a function behind the word that begins it. -/
def readFunction (words : List Token) : Reading (Part Function) := do
  let (name, rest) ← match words with
    | .function name :: rest | .name name :: rest => pure (name, rest)
    | _ => throw (.unexpected words)
  let (parameters, rest) ← readParameters (← expect "(" rest)
  let (body, rest) ← readBody ⟨false, true, false⟩ (skipBreaks rest)
  return (⟨name, parameters, body⟩, rest)

/-- Reads what tells the records that a rule is meant for. -/
def readSelection (words : List Token) : Reading (Part Selection) := do
  let fuel := 16 * words.length + 64
  let setting : Setting := ⟨false, false, false⟩
  match words with
  | .keyword "BEGIN" :: rest => return (.first, rest)
  | .keyword "END" :: rest => return (.last, rest)
  | .symbol "\x7b" :: _ => return (.always, words)
  | _ =>
    let (start, rest) ← readExpr setting words fuel
    if nextIs "," rest then
      let (stop, rest) ← readExpr setting (skipBreaks (rest.drop 1)) fuel
      return (.between start stop, rest)
    else return (.at start, rest)

/-- Reads a rule. Without a statement, the record is printed. -/
def readRule (words : List Token) : Reading (Part Rule) := do
  let (selection, rest) ← readSelection words
  match selection, nextIs "\x7b" rest with
  | _, true =>
    let (body, rest) ← readBody ⟨false, false, false⟩ rest
    return (⟨selection, body⟩, rest)
  | .at _, false | .between _ _, false =>
    if isEnd rest && !nextIs "\x7d" rest then return (⟨selection, .print [] none⟩, rest)
    else throw (.unexpected rest)
  | _, false => throw (.unexpected rest)

/-- Reads rules and functions. The fuel is the number of words and one more. -/
def readProgram (found : Program) (words : List Token) : Nat → Except Flaw Program
  | 0 => .error (.unexpected words)
  | fuel + 1 => do
    match words with
    | [] => return ⟨found.rules.reverse, found.functions.reverse⟩
    | .lineBreak :: rest | .symbol ";" :: rest => readProgram found rest fuel
    | .keyword "function" :: rest =>
      let (function, rest) ← readFunction rest
      readProgram { found with functions := function :: found.functions } rest fuel
    | _ =>
      let (rule, rest) ← readRule words
      readProgram { found with rules := rule :: found.rules } rest fuel

/-- The program that a text is, or what is wrong with it. -/
def Program.ofText (text : Text) : Except Flaw Program := do
  let words ← tokens text
  let program ← readProgram ⟨[], []⟩ words (words.length + 1)
  let isDefined (name : Text) : Bool := program.functions.any fun function ↦ function.name == name
  match words.findSome? fun
    | .function name => if isDefined name then none else some name
    | _ => none with
  | some name => throw (.unknownFunction name)
  | none => return program

end Dialogue.Tool.Awk
