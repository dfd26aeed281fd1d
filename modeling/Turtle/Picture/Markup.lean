import Std.Data.HashMap
import Turtle.Fault
import Turtle.Text.Quoted

/-!
# Math markup in panel titles

A line of a title with an even, positive number of unescaped dollar signs is math markup: the
text between each pair of dollar signs is a formula in a TeX-like language, and the picture
cannot be drawn when a formula does not parse. This module decides that, and words the failure
as the drawing library does.

The formula grammar is a set of parsing expressions (`Pat`) run by one interpreter (`run`) with
the semantics of the combinator library the drawing library is built on:

* every element first skips blanks, except the single-symbol element and the reference to a
  placeable item, unless its caller has already skipped them;
* a choice (`first`) takes its first alternative that matches; when all fail softly it reports
  the failure that got furthest, and when even that did not get past the choice's start, the
  choice's own expectation;
* a sequence may hold a point of no return (`commit`): a failure after it is a syntax failure,
  which no choice recovers from;
* some elements carry an action on what they matched: an unknown command always fails, a group
  left open at the end of the text fails, a doubled subscript or superscript fails, and an
  automatically sized delimiter pair fails when nothing between its ends has a height, or when
  a middle delimiter is left over as text (see `settleMiddles`).

References are remembered by position, as the library does, so that a failed alternative is not
parsed again when a later one reaches the same item.

A failure is written as the library explains it: the line parsed, a caret under the place of
the failure, the kind of failure, what was expected, what was found there and the position.
Tabs in a line are first expanded to the next multiple of eight columns, as the parser does
before it starts, so positions and the echoed line count spaces.
-/

namespace Turtle

namespace Markup

/-- How a failure propagates: a soft failure lets an enclosing choice try its next alternative; a
fatal one ends the parse; a syntax failure is a fatal one met after a point of no return. The
last two are errors outside the parser's reporting, passed on as they are: a delimiter pair
with nothing to take its height from, and one that kept a middle delimiter as text. -/
inductive Severity where
  | soft
  | fatal
  | decisive
  | noHeight
  | leftAsText
deriving DecidableEq, Inhabited

/-- A failure: how it propagates, where it happened, and what was expected. -/
structure Miss where
  severity : Severity
  loc : Nat
  msg : String
deriving Inhabited

/-- A soft failure at `loc`. -/
def Miss.soft (loc : Nat) (msg : String) : Miss := ⟨.soft, loc, msg⟩

/-- The failure as seen past a point of no return: a soft or fatal failure becomes a syntax
failure. -/
def Miss.committed (m : Miss) : Miss :=
  match m.severity with
  | .soft | .fatal => { m with severity := .decisive }
  | _ => m

/-- An item between the ends of an automatically sized delimiter pair: a built box, or the text of
a middle delimiter (the word and then the delimiter itself). -/
inductive Part where
  | box
  | text (s : String)
deriving DecidableEq, Inhabited

/-- What a matched element yields: matched text, a built box, or the items between the ends of an
automatically sized delimiter pair. -/
inductive Piece where
  | raw (s : String)
  | node
  | inside (parts : List Part)
deriving DecidableEq, Inhabited

/-- The end of a match and what it yields, or a failure. -/
abbrev Outcome := Except Miss (Nat × List Piece)

/-! ## Characters -/

/-- The blanks every element but the symbol skips. -/
def isBlank (c : Char) : Bool := c == ' ' || c == '\n' || c == '\t' || c == '\r'

/-- The position of the first character at or after `loc` that is no blank. -/
def skipBlanks (s : Array Char) (loc : Nat) : Nat :=
  let rec go : Nat → Nat → Nat
    | 0, i => i
    | fuel + 1, i => if h : i < s.size then (if isBlank s[i] then go fuel (i + 1) else i) else i
  go (s.size + 1) loc

/-- The characters from `a` to `b`. -/
def slice (s : Array Char) (a b : Nat) : String := String.ofList ((s.extract a b).toList)

/-- The character at `i`, if any. -/
def at? (s : Array Char) (i : Nat) : Option Char := s[i]?

/-- The position after the longest run of ASCII letters starting at `i`. -/
def lettersFrom (s : Array Char) (i : Nat) : Nat :=
  let rec go : Nat → Nat → Nat
    | 0, j => j
    | fuel + 1, j => match s[j]? with
      | some c => if c.isAlpha then go fuel (j + 1) else j
      | none => j
  go (s.size + 1) i

/-- The position after the run of decimal digits starting at `i`. -/
def digitsFrom (s : Array Char) (i : Nat) : Nat :=
  let rec go : Nat → Nat → Nat
    | 0, j => j
    | fuel + 1, j => match s[j]? with
      | some c => if c.isDigit then go fuel (j + 1) else j
      | none => j
  go (s.size + 1) i

/-- The position after the run of apostrophes starting at `i`. -/
def primesFrom (s : Array Char) (i : Nat) : Nat :=
  let rec go : Nat → Nat → Nat
    | 0, j => j
    | fuel + 1, j => if at? s j == some '\x27' then go fuel (j + 1) else j
  go (s.size + 1) i

/-- The end of text between braces whose body starts at `i`, braces inside nesting in pairs: the
position after the brace that closes the first one, if the text has it. -/
def bracedEnd (s : Array Char) (i : Nat) : Option Nat :=
  let rec go : Nat → Nat → Nat → Option Nat
    | 0, _, _ => none
    | fuel + 1, depth, m => match at? s m with
      | some '\x7b' => go fuel (depth + 1) (m + 1)
      | some '\x7d' => if depth == 0 then some (m + 1) else go fuel (depth - 1) (m + 1)
      | some _ => go fuel depth (m + 1)
      | none => none
  go (s.size + 1) 0 i

/-- The text at `i` starts with `w`. -/
def startsWith (s : Array Char) (i : Nat) (w : String) : Bool :=
  let cs := w.toList
  (s.extract i (i + cs.length)).toList == cs

/-! ## Names the grammar knows -/

/-- The named symbols. -/
def symbolNames : List String :=
  ["AA", "AE", "BbbC", "BbbN", "BbbP", "BbbQ", "BbbR", "BbbZ", "Bumpeq", "Cap", "Colon", "Cup",
   "DH", "Delta", "Doteq", "Downarrow", "Equiv", "Finv", "Game", "Gamma", "H", "Im", "Join", "L",
   "Lambda", "Ldsh", "Leftarrow", "Leftrightarrow", "Lleftarrow", "Longleftarrow",
   "Longleftrightarrow", "Longrightarrow", "Lsh", "Nearrow", "Nwarrow", "O", "OE", "Omega", "P",
   "Phi", "Pi", "Psi", "QED", "Rdsh", "Re", "Rightarrow", "Rrightarrow", "Rsh", "S", "Searrow",
   "Sigma", "Subset", "Supset", "Swarrow", "Theta", "Thorn", "Uparrow", "Updownarrow", "Upsilon",
   "Vdash", "Vert", "Vvdash", "Xi", "aa", "ac", "acute", "acwopencirclearrow", "adots", "ae",
   "aleph", "alpha", "amalg", "angle", "approx", "approxeq", "approxident", "arceq", "ast",
   "asterisk", "asymp", "backcong", "backepsilon", "backprime", "backsim", "backsimeq", "backslash",
   "bagmember", "bar", "barleftarrow", "barvee", "barwedge", "because", "beta", "beth", "between",
   "bigcap", "bigcirc", "bigcup", "bigodot", "bigoplus", "bigotimes", "bigsqcup", "bigstar",
   "bigtriangledown", "bigtriangleup", "biguplus", "bigvee", "bigwedge", "blacksquare",
   "blacktriangle", "blacktriangledown", "blacktriangleleft", "blacktriangleright", "bot", "bowtie",
   "boxbar", "boxdot", "boxminus", "boxplus", "boxtimes", "breve", "bullet", "bumpeq", "c",
   "candra", "cap", "carriagereturn", "cdot", "cdotp", "cdots", "cent", "check", "checkmark", "chi",
   "circ", "circeq", "circlearrowleft", "circlearrowright", "circledR", "circledS", "circledast",
   "circledcirc", "circleddash", "circumflexaccent", "clubsuit", "clubsuitopen", "colon", "coloneq",
   "combiningacuteaccent", "combiningbreve", "combiningdiaeresis", "combiningdotabove",
   "combiningfourdotsabove", "combininggraveaccent", "combiningoverline",
   "combiningrightarrowabove", "combiningthreedotsabove", "combiningtilde", "complement", "cong",
   "coprod", "copyright", "cup", "cupdot", "cupleftarrow", "curlyeqprec", "curlyeqsucc", "curlyvee",
   "curlywedge", "curvearrowleft", "curvearrowright", "cwopencirclearrow", "d", "dag", "dagger",
   "daleth", "danger", "dashleftarrow", "dashrightarrow", "dashv", "ddag", "ddagger", "ddddot",
   "dddot", "ddot", "ddots", "degree", "delta", "dh", "diamond", "diamondsuit", "digamma", "disin",
   "div", "divideontimes", "dot", "doteq", "doteqdot", "dotminus", "dotplus", "dots",
   "dotsminusdots", "doublebarwedge", "downarrow", "downdownarrows", "downharpoonleft",
   "downharpoonright", "downzigzagarrow", "ell", "emdash", "emptyset", "endash", "epsilon",
   "eqcirc", "eqcolon", "eqdef", "eqgtr", "eqless", "eqsim", "eqslantgtr", "eqslantless", "equal",
   "equalparallel", "equiv", "eta", "eth", "exists", "fallingdotseq", "flat", "forall", "frakC",
   "frakZ", "frown", "gamma", "geq", "geqq", "geqslant", "gg", "ggg", "gimel", "gnapprox", "gneqq",
   "gnsim", "grave", "greater", "gtrapprox", "gtrdot", "gtreqless", "gtreqqless", "gtrless",
   "gtrsim", "guillemotleft", "guillemotright", "guilsinglleft", "guilsinglright", "hat", "hbar",
   "heartsuit", "hermitmatrix", "hookleftarrow", "hookrightarrow", "hslash", "i", "iiiint", "iiint",
   "iint", "imageof", "imath", "in", "increment", "infty", "int", "intercal", "invnot", "iota",
   "isinE", "isindot", "isinobar", "isins", "isinvb", "jmath", "k", "kappa", "kernelcontraction",
   "l", "lambda", "lambdabar", "langle", "lasp", "lbrace", "lbrack", "lceil", "ldots", "leadsto",
   "leftarrow", "leftarrowtail", "leftbrace", "leftharpoonaccent", "leftharpoondown",
   "leftharpoonup", "leftleftarrows", "leftparen", "leftrightarrow", "leftrightarrows",
   "leftrightharpoons", "leftrightsquigarrow", "leftsquigarrow", "leftthreetimes", "leq", "leqq",
   "leqslant", "less", "lessapprox", "lessdot", "lesseqgtr", "lesseqqgtr", "lessgtr", "lesssim",
   "lfloor", "lgroup", "lhd", "ll", "llcorner", "lll", "lnapprox", "lneqq", "lnsim",
   "longleftarrow", "longleftrightarrow", "longmapsto", "longrightarrow", "looparrowleft",
   "looparrowright", "lq", "lrcorner", "ltimes", "macron", "maltese", "mapsdown", "mapsfrom",
   "mapsto", "mapsup", "measeq", "measuredangle", "measuredrightangle", "merge", "mho", "mid",
   "minus", "minuscolon", "models", "mp", "mu", "multimap", "nLeftarrow", "nLeftrightarrow",
   "nRightarrow", "nVDash", "nVdash", "nabla", "napprox", "natural", "ncong", "ne", "nearrow",
   "neg", "neq", "nequiv", "nexists", "ngeq", "ngtr", "ngtrless", "ngtrsim", "ni", "niobar", "nis",
   "nisd", "nleftarrow", "nleftrightarrow", "nleq", "nless", "nlessgtr", "nlesssim", "nmid", "not",
   "notin", "notsmallowns", "nparallel", "nprec", "npreccurlyeq", "nrightarrow", "nsim", "nsime",
   "nsimeq", "nsqsubseteq", "nsqsupseteq", "nsubset", "nsubseteq", "nsucc", "nsucccurlyeq",
   "nsupset", "nsupseteq", "ntriangleleft", "ntrianglelefteq", "ntriangleright", "ntrianglerighteq",
   "nu", "nvDash", "nvdash", "nwarrow", "o", "obar", "ocirc", "odot", "oe", "oequal", "oiiint",
   "oiint", "oint", "omega", "ominus", "oplus", "origof", "oslash", "otimes", "overarc", "overbar",
   "overleftarrow", "overleftrightarrow", "overrightarrow", "parallel", "partial", "perp",
   "perthousand", "phi", "pi", "pitchfork", "plus", "pm", "prec", "precapprox", "preccurlyeq",
   "preceq", "precnapprox", "precnsim", "precsim", "prime", "prod", "propto", "prurel", "psi",
   "quad", "questeq", "rangle", "rasp", "ratio", "rbrace", "rbrack", "rceil", "rfloor", "rgroup",
   "rhd", "rho", "rightModels", "rightangle", "rightarrow", "rightarrowbar", "rightarrowtail",
   "rightassert", "rightbrace", "rightharpoonaccent", "rightharpoondown", "rightharpoonup",
   "rightleftarrows", "rightleftharpoons", "rightparen", "rightrightarrows", "rightsquigarrow",
   "rightthreetimes", "rightzigzagarrow", "ring", "risingdotseq", "rq", "rtimes", "scrB", "scrE",
   "scrF", "scrH", "scrI", "scrL", "scrM", "scrR", "scre", "scrg", "scro", "scurel", "searrow",
   "setminus", "sharp", "sigma", "sim", "simeq", "simneqq", "sinewave", "slash", "smallin",
   "smallintclockwise", "smallointctrcclockwise", "smallowns", "smallsetminus",
   "smallvarointclockwise", "smile", "solbar", "spadesuit", "spadesuitopen", "sphericalangle",
   "sqcap", "sqcup", "sqsubset", "sqsubseteq", "sqsubsetneq", "sqsupset", "sqsupseteq",
   "sqsupsetneq", "ss", "star", "stareq", "sterling", "subset", "subseteq", "subseteqq",
   "subsetneq", "subsetneqq", "succ", "succapprox", "succcurlyeq", "succeq", "succnapprox",
   "succnsim", "succsim", "sum", "supset", "supseteq", "supseteqq", "supsetneq", "supsetneqq",
   "swarrow", "t", "tau", "textasciiacute", "textasciicircum", "textasciigrave", "textasciitilde",
   "textexclamdown", "textquestiondown", "textquotedblleft", "textquotedblright", "therefore",
   "theta", "thickspace", "thorn", "tilde", "times", "to", "top", "triangle", "triangledown",
   "triangleeq", "triangleleft", "trianglelefteq", "triangleq", "triangleright", "trianglerighteq",
   "turnednot", "twoheaddownarrow", "twoheadleftarrow", "twoheadrightarrow", "twoheaduparrow",
   "ulcorner", "underbar", "unlhd", "unrhd", "uparrow", "updownarrow", "updownarrowbar",
   "updownarrows", "upharpoonleft", "upharpoonright", "uplus", "upsilon", "upuparrows", "urcorner",
   "vDash", "varepsilon", "varisinobar", "varisins", "varkappa", "varlrtriangle", "varniobar",
   "varnis", "varnothing", "varphi", "varpi", "varpropto", "varrho", "varsigma", "vartheta",
   "vartriangle", "vartriangleleft", "vartriangleright", "vdash", "vdots", "vec", "vee", "veebar",
   "veeeq", "vert", "wedge", "wedgeq", "widebar", "widehat", "widetilde", "wp", "wr", "xi", "yen",
   "zeta"]

/-- The font commands. -/
def fontNames : List String :=
  ["rm", "cal", "it", "tt", "sf", "bf", "bfit", "default", "bb", "frak", "scr", "regular", "normal"]

/-- The font names after a math font prefix, each longer name before a shorter one it starts
with. -/
def prefixedFontNames : List String :=
  ["rm", "cal", "it", "tt", "sf", "bfit", "bf", "default", "bb", "frak", "scr", "regular",
   "normal"]

/-- The named operators. -/
def functionNames : List String :=
  ["arccos", "csc", "ker", "min", "arcsin", "deg", "lg", "Pr", "arctan", "det", "lim", "sec",
   "arg", "dim", "liminf", "sin", "cos", "exp", "limsup", "sinh", "cosh", "gcd", "ln", "sup",
   "cot", "hom", "log", "tan", "coth", "inf", "max", "tanh"]

/-- The accents named by words. -/
def accentNames : List String :=
  ["hat", "breve", "bar", "grave", "acute", "tilde", "dot", "ddot", "dddot", "ddddot", "vec",
   "overrightarrow", "overleftarrow", "mathring", "widehat", "widetilde", "widebar"]

/-- The accents named by one mark. -/
def accentMarks : List Char := ['"', '`', '\x27', '~', '.', '^']

/-- The spaces. -/
def spaceNames : List String :=
  ["\\,", "\\thinspace", "\\/", "\\>", "\\:", "\\;", "\\ ", "~", "\\enspace", "\\quad", "\\qquad",
   "\\!"]

/-- The delimiters an automatically sized pair may use. -/
def delimiters : List String :=
  ["|", "\\|", "/", "\\backslash", "\\uparrow", "\\downarrow", "\\updownarrow", "\\Uparrow",
   "\\Downarrow", "\\Updownarrow", ".", "\\vert", "\\Vert", "(", "[", "\\\x7b", "<", "\\lfloor",
   "\\langle", "\\lceil", "\\lbrace", "\\leftbrace", "\\lbrack", "\\leftparen", "\\lgroup", ")",
   "]", "\\\x7d", ">", "\\rfloor", "\\rangle", "\\rceil", "\\rbrace", "\\rightbrace", "\\rbrack",
   "\\rightparen", "\\rgroup"]

/-- A character that stands for itself as a symbol. -/
def isPlainSymbol (c : Char) : Bool :=
  c.isAlphanum || " +-*/<>=:,.;!?&'@()[]|".contains c || (0x80 ≤ c.toNat && c.toNat ≤ 0x1FFFF)

/-- A character a backslash makes a symbol of. -/
def isEscapedSymbol (c : Char) : Bool := "%$\x7b\x7d[]_|".contains c

/-- The escaped characters that name no symbol: they match as symbols but cannot be drawn. -/
def isUndrawable (c : Char) : Bool := c == '[' || c == ']'

/-! ## Lexemes -/

/-- The single elements of the grammar. -/
inductive Lexeme where
  /-- this exact text -/
  | word (w : String)
  /-- the first of these texts that starts here -/
  | oneOf (ws : List String)
  /-- a backslash and then a name of the list, not followed by a letter, or one of the marks -/
  | command (names : List String) (marks : List Char)
  /-- a symbol: a plain character, an escaped one, a named symbol, or a number sign after a
  backslash with no letter after it -/
  | symbol
  /-- a backslash and letters -/
  | anyCommand
  /-- a decimal number with an optional sign -/
  | number
  /-- apostrophes, at least one if asked -/
  | primes (atLeastOne : Bool)
  /-- text between braces, braces inside nesting in pairs -/
  | braced

/-- The end of a lexeme matched at `i`, if it matches. -/
def Lexeme.scan (s : Array Char) (i : Nat) : Lexeme → Option Nat
  | .word w => if startsWith s i w then some (i + w.length) else none
  | .oneOf ws => (ws.find? (startsWith s i)).map fun w => i + w.length
  | .command names marks =>
    if at? s i == some '\\' then
      let e := lettersFrom s (i + 1)
      if e > i + 1 && names.contains (slice s (i + 1) e) then some e
      else match at? s (i + 1) with
        | some c => if marks.contains c then some (i + 2) else none
        | none => none
    else none
  | .symbol =>
    match at? s i with
    | some '\\' =>
      match at? s (i + 1) with
      | some c =>
        if isEscapedSymbol c then some (i + 2)
        else if c == '#' then (if (at? s (i + 2)).any Char.isAlpha then none else some (i + 2))
        else
          let e := lettersFrom s (i + 1)
          if e > i + 1 && symbolNames.contains (slice s (i + 1) e) then some e else none
      | none => none
    | some c => if isPlainSymbol c then some (i + 1) else none
    | none => none
  | .anyCommand =>
    if at? s i == some '\\' then
      let e := lettersFrom s (i + 1)
      if e > i + 1 then some e else none
    else none
  | .number =>
    let j := match at? s i with | some '+' | some '-' => i + 1 | _ => i
    let d := digitsFrom s j
    if d > j then
      if at? s d == some '.' then some (digitsFrom s (d + 1)) else some d
    else if at? s j == some '.' then
      let f := digitsFrom s (j + 1)
      if f > j + 1 then some f else none
    else none
  | .primes atLeastOne =>
    let e := primesFrom s i
    if atLeastOne && e == i then none else some e
  | .braced => if at? s i == some '\x7b' then bracedEnd s (i + 1) else none

/-- The lexeme is the single symbol, which does not skip blanks before itself. -/
def Lexeme.keepsBlanks : Lexeme → Bool
  | .symbol => true
  | _ => false

/-! ## Grammar -/

/-- The items the grammar refers to by name, so that it may be recursive. -/
inductive Rule where
  | token
  | placeable
  | simple
  | requiredGroup
  | optionalGroup
  | autoDelim
  | stack
deriving DecidableEq

/-- A number for each item, to remember its matches by. -/
def Rule.index : Rule → Nat
  | .token => 0
  | .placeable => 1
  | .simple => 2
  | .requiredGroup => 3
  | .optionalGroup => 4
  | .autoDelim => 5
  | .stack => 6

/-- The item skips blanks before itself. -/
def Rule.skips : Rule → Bool
  | .placeable => false
  | _ => true

/-- What an element does with what it matched. -/
inductive Action where
  /-- yields one box -/
  | build
  /-- yields nothing -/
  | drop
  /-- an unknown command: fails -/
  | unknownSymbol
  /-- a group open at the end of the text: fails -/
  | unclosed
  /-- a symbol: fails when it names no drawable character -/
  | symbol
  /-- a nucleus with subscripts and superscripts: fails when one of them is doubled -/
  | scripts
  /-- collects the items between the ends of an automatically sized pair -/
  | middles
  /-- an automatically sized pair: fails when its items have no height or keep a delimiter as
  text -/
  | delimited

/-- Parsing expressions. -/
inductive Pat where
  /-- a lexeme, with the name its failure reports -/
  | lex (l : Lexeme) (name : String)
  /-- the elements one after the other -/
  | seq (ps : List Pat)
  /-- the point of no return of a sequence -/
  | commit
  /-- the first alternative that matches, with the expectation reported when none gets past the
  start -/
  | first (ps : List Pat) (expected : String)
  /-- the element or nothing -/
  | opt (p : Pat)
  /-- the element any number of times -/
  | many (p : Pat)
  /-- the element at least once -/
  | many1 (p : Pat)
  /-- a named item -/
  | ref (r : Rule)
  /-- the element with an action on what it matched -/
  | act (p : Pat) (a : Action)
  /-- a fatal failure with this message -/
  | fail (msg : String)
  /-- the element, skipping blanks before itself or not, whatever it does by itself -/
  | skipping (b : Bool) (p : Pat)
  /-- matches nothing, and only where the element does not match -/
  | notAhead (p : Pat)
  /-- the end of the text -/
  | textEnd

mutual
/-- The element skips blanks before itself. -/
def Pat.skips : Pat → Bool
  | .lex l _ => !l.keepsBlanks
  | .seq [] => true
  | .seq (p :: _) => p.skips
  | .commit => true
  | .first ps _ => Pat.allSkip ps
  | .opt p | .many p | .many1 p | .act p _ | .notAhead p => p.skips
  | .ref r => r.skips
  | .fail _ => true
  | .skipping b _ => b
  | .textEnd => true

/-- Every element of the list skips blanks before itself. -/
def Pat.allSkip : List Pat → Bool
  | [] => true
  | p :: ps => p.skips && Pat.allSkip ps
end

/-- A literal, reporting itself as written. -/
def lit (w : String) : Pat := .lex (.word w) (Text.quoted w)

/-- A command `name` followed by its arguments: past the name there is no return, and arguments
that do not match fail as `Expected <shown>`. -/
def cmd (name : String) (args : Pat) (shown : String) : Pat :=
  .seq [lit name, .commit, .first [args, .fail ("Expected " ++ shown)] "Expected arguments"]

/-- A group argument with at least one token. -/
def required : Pat := .ref .requiredGroup

/-- A group argument that may be empty. -/
def optional : Pat := .ref .optionalGroup

/-- A placeable item, skipping blanks before itself. -/
def namedPlaceable : Pat := .skipping true (.ref .placeable)

/-- An opening brace, possibly after a math font prefix. -/
def startGroup : Pat :=
  .act (.seq [.opt (.seq [lit "\\math", .lex (.oneOf prefixedFontNames) "font"]), lit "\x7b"]) .drop

/-- A delimiter of an automatically sized pair, or the failure of a missing one. -/
def delimiter : Pat :=
  .first [.lex (.oneOf delimiters) "delim", .fail "Expected a delimiter"] "Expected a delimiter"

/-- How the automatically sized delimiter pair is written in a report: it has no name of its own,
so it is written out, its reference to itself elided. -/
def autoDelimShown : String :=
  "Forward: \x7b\x7b\x7b\x7b'\\\\left' -\x7d \x7bdelim | Empty\x7d [\x7b\x7bsimple | : ...\x7d | \x7b'\\\\middle' -\x7d \x7bdelim | Empty\x7d\x7d]...\x7d '\\\\right'\x7d -\x7d \x7bdelim | Empty\x7d"

/-- The items that can carry a subscript or superscript, each with the name a report gives it. -/
def placeables : List (String × Pat) :=
  [("phantom", .act (cmd "\\phantom" required "\\phantom\x7bvalue\x7d") .build),
   ("llap", .act (cmd "\\llap" required "\\llap\x7bvalue\x7d") .build),
   ("rlap", .act (cmd "\\rlap" required "\\rlap\x7bvalue\x7d") .build),
   ("accent", .act (.seq [.lex (.command accentNames accentMarks) "accent", .commit, namedPlaceable]) .build),
   ("symbol", .act (.lex .symbol "symbol") .symbol),
   ("function", .act (.lex (.command functionNames []) "function") .build),
   ("operatorname", .act (cmd "\\operatorname" (.seq [lit "\x7b", .many (.ref .simple), lit "\x7d"])
      "\\operatorname\x7bname\x7d") .build),
   ("group", .act (.seq [startGroup, .many (.ref .token), .act (.lex (.word "\x7d") "end_group") .drop]) .build),
   ("frac", .act (cmd "\\frac" (.seq [required, required]) "\\frac\x7bnum\x7d\x7bden\x7d") .build),
   ("dfrac", .act (cmd "\\dfrac" (.seq [required, required]) "\\dfrac\x7bnum\x7d\x7bden\x7d") .build),
   ("binom", .act (cmd "\\binom" (.seq [required, required]) "\\binom\x7bnum\x7d\x7bden\x7d") .build),
   ("genfrac", .act (cmd "\\genfrac"
      (.seq [lit "\x7b", .opt (.lex (.oneOf delimiters) "delim"), lit "\x7d",
             lit "\x7b", .opt (.lex (.oneOf delimiters) "delim"), lit "\x7d",
             lit "\x7b", .lex .number "float_literal", lit "\x7d",
             lit "\x7b", .opt (.lex (.oneOf ["0", "1", "2", "3"]) "style_literal"), lit "\x7d",
             required, required])
      "\\genfrac\x7bldelim\x7d\x7brdelim\x7d\x7brulesize\x7d\x7bstyle\x7d\x7bnum\x7d\x7bden\x7d") .build),
   ("overset", .act (cmd "\\overset" (.seq [optional, optional]) "\\overset\x7bannotation\x7d\x7bbody\x7d") .build),
   ("underset", .act (cmd "\\underset" (.seq [optional, optional]) "\\underset\x7bannotation\x7d\x7bbody\x7d") .build),
   ("sqrt", .act (cmd "\\sqrt"
      (.seq [.opt (.seq [lit "[", .many1 (.seq [.notAhead (lit "]"), .ref .token]), lit "]"]), required])
      "\\sqrt\x7bvalue\x7d") .build),
   ("overline", .act (cmd "\\overline" required "\\overline\x7bbody\x7d") .build),
   ("underline", .act (cmd "\\underline" required "\\underline\x7bbody\x7d") .build),
   ("text", .act (cmd "\\text" (.lex .braced "quoted") "\\text") .build),
   ("boldsymbol", .act (cmd "\\boldsymbol" (.seq [lit "\x7b", .many (.ref .simple), lit "\x7d"])
      "\\boldsymbol\x7bvalue\x7d") .build),
   ("substack", .act (cmd "\\substack" (.ref .stack) "\\substack\x7bparts\x7d") .build),
   (autoDelimShown, .ref .autoDelim)]

/-- What a placeable item is expected to be, named by its kinds. -/
def placeableExpected : String :=
  "Expected \x7b" ++ " | ".intercalate (placeables.map (·.1)) ++ "\x7d"

/-- A nucleus with subscripts, superscripts and primes, primes alone, or a nucleus alone. -/
def scripted : Pat :=
  .act (.first
    [.seq [.skipping true (.opt (.ref .placeable)),
           .many1 (.seq [.lex (.oneOf ["_", "^"]) "_ | ^", .commit, .ref .placeable]),
           .lex (.primes false) "apostrophes"],
     .lex (.primes true) "apostrophes",
     .seq [namedPlaceable, .lex (.primes false) "apostrophes"]] "Expected subsuper") .scripts

/-- A middle delimiter of an automatically sized pair. -/
def middle : Pat := .seq [lit "\\middle", .commit, delimiter]

/-- The definition of a named item. -/
def Rule.body : Rule → Pat
  | .token =>
    .first [.ref .simple, .ref .autoDelim,
            .act (.seq [startGroup, .many (.ref .token), .textEnd]) .unclosed,
            .act (.lex .anyCommand "unknown_symbol") .unknownSymbol] "Expected token"
  | .placeable => .first (placeables.map (·.2)) placeableExpected
  | .simple =>
    .first [.act (.lex (.oneOf spaceNames) "space") .build,
            .act (cmd "\\hspace" (.seq [lit "\x7b", .lex .number "float_literal", lit "\x7d"])
              "\\hspace\x7bspace\x7d") .build,
            .act (.lex (.command fontNames []) "font") .drop,
            scripted] "Expected simple"
  | .requiredGroup => .seq [lit "\x7b", .many1 (.ref .token), lit "\x7d"]
  | .optionalGroup => .seq [lit "\x7b", .many (.ref .token), lit "\x7d"]
  | .autoDelim =>
    .act (.seq [lit "\\left", .commit, delimiter,
                .act (.many (.first [.ref .simple, .ref .autoDelim, middle] "Expected mid")) .middles,
                lit "\\right", .commit, delimiter]) .delimited
  | .stack =>
    .seq [lit "\x7b",
          .many (.first [.ref .stack, .seq [.many1 (.ref .token), .many (lit "\\\\")]]
            "Expected content"),
          lit "\x7d"]

/-! ## The interpreter -/

/-- The items between the ends of an automatically sized pair once its middle delimiters are
sized, going through the positions in order while the list changes under the walk: at a word
`\middle`, the delimiter after it becomes a box, or when it is the empty delimiter `.` the first
empty delimiter of the list is removed; then the word itself is removed, and the walk goes on at
the next position. A middle delimiter the walk steps over stays as text. -/
def settleMiddles : Nat → Nat → List Part → List Part
  | 0, _, ps => ps
  | fuel + 1, idx, ps =>
    match ps[idx]? with
    | none => ps
    | some (.text "\\middle") =>
      let ps := match ps[idx + 1]? with
        | some (.text ".") => ps.erase (.text ".")
        | some _ => ps.set (idx + 1) .box
        | none => ps
      settleMiddles fuel (idx + 1) (ps.eraseIdx idx)
    | some _ => settleMiddles fuel (idx + 1) ps

/-- The failure an action raises, or what the element then yields. -/
def Action.apply (s : Array Char) (start : Nat) (a : Action) : Nat × List Piece → Outcome
  | (e, ps) =>
    match a with
    | .build => .ok (e, [.node])
    | .drop => .ok (e, [])
    | .unknownSymbol => .error ⟨.fatal, start, "Unknown symbol: " ++ slice s start e⟩
    | .unclosed => .error ⟨.fatal, s.size, "Expected '\x7d'"⟩
    | .symbol =>
      if e == start + 2 && at? s start == some '\\' && (at? s (start + 1)).any isUndrawable then
        .error ⟨.fatal, start, "Unknown symbol: " ++ slice s start e⟩
      else .ok (e, [.node])
    | .scripts =>
      let marks := ps.filterMap fun p => match p with
        | .raw "_" => some '_'
        | .raw "^" => some '^'
        | _ => none
      let rec doubled : List Char → List Char → Option Char
        | _, [] => none
        | seen, c :: cs => if seen.contains c then some c else doubled (c :: seen) cs
      match doubled [] marks with
      | some '_' => .error ⟨.fatal, start, "Double subscript"⟩
      | some _ => .error ⟨.fatal, start, "Double superscript"⟩
      | none => .ok (e, [.node])
    | .middles =>
      .ok (e, [.inside (ps.map fun p => match p with
        | .raw w => .text w
        | _ => .box)])
    | .delimited =>
      let parts := (ps.findSome? fun p => match p with
        | .inside parts => some parts
        | _ => none).getD []
      if !parts.isEmpty && !parts.contains .box then .error ⟨.noHeight, start, ""⟩
      else if (settleMiddles (parts.length + 1) 0 parts).any (· != .box) then
        .error ⟨.leftAsText, start, ""⟩
      else .ok (e, [.node])

/-- Matches remembered per item and position. -/
abbrev Memo := Std.HashMap (Nat × Nat) Outcome

/-- The failure when the parse runs out of room; it does not happen for the lengths parsed. -/
def exhausted (loc : Nat) : Outcome := .error (Miss.soft loc "Expected less nesting")

mutual
/-- Runs an element at `loc`, skipping blanks first when asked and when the element does. -/
def run (s : Array Char) : Nat → Pat → Bool → Nat → StateM Memo Outcome
  | 0, _, _, loc => pure (exhausted loc)
  | fuel + 1, p, pre, loc0 => do
    let loc := if pre && p.skips then skipBlanks s loc0 else loc0
    match p with
    | .lex l name =>
      pure (match l.scan s loc with
        | some e => .ok (e, [.raw (slice s loc e)])
        | none => .error (Miss.soft loc ("Expected " ++ name)))
    | .seq ps => runSeq s fuel ps false true loc []
    | .commit => pure (.ok (loc, []))
    | .first ps expected => runFirst s fuel ps expected loc none
    | .opt q => do
      match ← run s fuel q false loc with
      | .error m => pure (if m.severity == .soft then .ok (loc, []) else .error m)
      | ok => pure ok
    | .many q => runMany s fuel q loc []
    | .many1 q => do
      match ← run s fuel q true loc with
      | .ok (e, ps) => runMany s fuel q e ps
      | .error m => pure (.error m)
    | .ref r => do
      let key := (r.index, loc)
      match (← get)[key]? with
      | some o => pure o
      | none => do
        let o ← run s fuel r.body false loc
        modify fun m => m.insert key o
        pure o
    | .act q a => do
      let o ← run s fuel q false loc
      pure (o.bind (a.apply s loc))
    | .fail msg => pure (.error ⟨.fatal, loc, msg⟩)
    | .skipping _ q => run s fuel q false loc
    | .notAhead q => do
      match ← run s fuel q true loc with
      | .ok _ => pure (.error (Miss.soft loc "Found unwanted token"))
      | .error _ => pure (.ok (loc, []))
    | .textEnd =>
      pure (if loc < s.size then .error (Miss.soft loc "Expected end of text") else .ok (loc + 1, []))

/-- Runs the elements of a sequence one after the other; only the first is run without skipping
blanks, and failures past a point of no return are syntax failures. -/
def runSeq (s : Array Char) : Nat → List Pat → Bool → Bool → Nat → List Piece → StateM Memo Outcome
  | 0, _, _, _, loc, _ => pure (exhausted loc)
  | _ + 1, [], _, _, loc, acc => pure (.ok (loc, acc))
  | fuel + 1, .commit :: ps, _, isFirst, loc, acc => runSeq s fuel ps true isFirst loc acc
  | fuel + 1, p :: ps, committed, isFirst, loc, acc => do
    match ← run s fuel p (!isFirst) loc with
    | .ok (e, out) => runSeq s fuel ps committed false e (acc ++ out)
    | .error m => pure (.error (if committed then m.committed else m))

/-- Tries the alternatives of a choice in order, keeping the soft failure that got furthest. -/
def runFirst (s : Array Char) : Nat → List Pat → String → Nat → Option Miss → StateM Memo Outcome
  | 0, _, _, loc, _ => pure (exhausted loc)
  | _ + 1, [], expected, loc, best =>
    pure (.error (match best with
      | some m => if m.loc == loc then { m with msg := expected } else m
      | none => Miss.soft loc expected))
  | fuel + 1, p :: ps, expected, loc, best => do
    match ← run s fuel p true loc with
    | .ok r => pure (.ok r)
    | .error m =>
      if m.severity == .soft then
        let best := match best with
          | some b => if m.loc > b.loc then m else b
          | none => m
        runFirst s fuel ps expected loc (some best)
      else pure (.error m)

/-- Matches an element again and again from `loc` until it fails softly or stops advancing. -/
def runMany (s : Array Char) : Nat → Pat → Nat → List Piece → StateM Memo Outcome
  | 0, _, loc, _ => pure (exhausted loc)
  | fuel + 1, q, loc, acc => do
    match ← run s fuel q true loc with
    | .ok (e, out) => if e > loc then runMany s fuel q e (acc ++ out) else pure (.ok (loc, acc))
    | .error m => pure (if m.severity == .soft then .ok (loc, acc) else .error m)
end

/-- Parses a formula: one or more tokens, then nothing but blanks. -/
def formula (s : Array Char) : Except Miss Unit :=
  let fuel := 200 * (s.size + 2)
  match ((run s fuel (.many1 (.ref .token)) true 0).run {}).1 with
  | .error m => .error m
  | .ok (e, _) =>
    let e := skipBlanks s e
    if e < s.size then .error (Miss.soft e "Expected end of text") else .ok ()

/-! ## Lines of markup -/

/-- The end of the text outside formulas from `i`: up to an unescaped dollar sign. -/
def plainEnd (s : Array Char) (i : Nat) : Nat :=
  let rec go : Nat → Nat → Nat
    | 0, j => j
    | fuel + 1, j => match at? s j with
      | some '\\' => if at? s (j + 1) == some '$' then go fuel (j + 2) else go fuel (j + 1)
      | some '$' => j
      | some _ => go fuel (j + 1)
      | none => j
  go (s.size + 1) i

/-- The end of a formula between dollar signs starting at `i`, if one starts there: backslash
escapes are kept, and a line break ends nothing. -/
def dollarEnd (s : Array Char) (i : Nat) : Option Nat :=
  if at? s i == some '$' then
    let rec go : Nat → Nat → Option Nat
      | 0, _ => none
      | fuel + 1, m => match at? s m with
        | some '\\' =>
          match at? s (m + 1) with
          | some c => if c == '\n' then none else go fuel (m + 2)
          | none => none
        | some '$' => some (m + 1)
        | some c => if c == '\n' || c == '\r' then none else go fuel (m + 1)
        | none => none
    go (s.size + 1) (i + 1)
  else none

/-- The number of occurrences of `w` in `s`, none overlapping. -/
def occurrences (s w : String) : Nat := (s.splitOn w).length - 1

/-- A line is markup when it has an even, positive number of unescaped dollar signs. -/
def isMarkup (line : String) : Bool :=
  let n := occurrences line "$" - occurrences line "\\$"
  n > 0 && n % 2 == 0

/-- The code points of the alphabets whose letters and digits make up the words a failure
report quotes: Latin with its two extensions, Greek and Cyrillic, each with the blocks and
scattered characters that belong to it. -/
def wordRanges : List (Nat × Nat) :=
  [(0x20, 0x7E), (0xA0, 0xFF), (0x100, 0x17F), (0x180, 0x24F),
   (0x342, 0x345), (0x370, 0x377), (0x37A, 0x37F), (0x384, 0x38A), (0x38C, 0x38C),
   (0x38E, 0x3A1), (0x3A3, 0x3E1), (0x3F0, 0x3FF), (0x1D26, 0x1D2A), (0x1D5E, 0x1D5E),
   (0x1D60, 0x1D60), (0x1D66, 0x1D6A), (0x1F00, 0x1F15), (0x1F18, 0x1F1D), (0x1F20, 0x1F45),
   (0x1F48, 0x1F4D), (0x1F50, 0x1F57), (0x1F59, 0x1F59), (0x1F5B, 0x1F5B), (0x1F5D, 0x1F5D),
   (0x1F5F, 0x1F7D), (0x1F80, 0x1FB4), (0x1FB6, 0x1FC4), (0x1FC6, 0x1FD3), (0x1FD6, 0x1FDB),
   (0x1FDD, 0x1FEF), (0x1FF2, 0x1FF4), (0x1FF6, 0x1FFE), (0x2129, 0x2129), (0x2719, 0x271A),
   (0xAB65, 0xAB65), (0x10140, 0x1018D), (0x101A0, 0x101A0), (0x1D200, 0x1D245),
   (0x1F7A1, 0x1F7A7),
   (0x400, 0x52F), (0x1C80, 0x1C88), (0x1D2B, 0x1D2B), (0x2DE0, 0x2DFF), (0xA640, 0xA672),
   (0xA674, 0xA69F), (0xFE2E, 0xFE2F)]

/-- The stretches of those alphabets that hold neither letters nor digits: punctuation, signs,
spacing accents, combining marks, and the number and music signs. -/
def nonWordRanges : List (Nat × Nat) :=
  [(0x20, 0x2F), (0x3A, 0x40), (0x5B, 0x60), (0x7B, 0x7E), (0xA0, 0xA9), (0xAB, 0xB1),
   (0xB4, 0xB4), (0xB6, 0xB8), (0xBB, 0xBF), (0xD7, 0xD7), (0xF7, 0xF7),
   (0x342, 0x345), (0x375, 0x375), (0x37E, 0x37E), (0x384, 0x385), (0x387, 0x387),
   (0x3F6, 0x3F6), (0x1FBD, 0x1FBD), (0x1FBF, 0x1FC1), (0x1FCD, 0x1FCF), (0x1FDD, 0x1FDF),
   (0x1FED, 0x1FEF), (0x1FFD, 0x1FFE), (0x2129, 0x2129), (0x2719, 0x271A),
   (0x10140, 0x1018D), (0x101A0, 0x101A0), (0x1D200, 0x1D245), (0x1F7A1, 0x1F7A7),
   (0x482, 0x489), (0x2DE0, 0x2DFF), (0xA66F, 0xA672), (0xA674, 0xA67E), (0xA69E, 0xA69F),
   (0xFE2E, 0xFE2F)]

/-- A character of the words a failure report quotes: a letter or digit of the alphabets above. -/
def isWordChar (c : Char) : Bool :=
  let n := c.toNat
  let within := fun (r : Nat × Nat) => r.1 ≤ n && n ≤ r.2
  wordRanges.any within && !nonWordRanges.any within

/-- What a failure report says was found at `loc`: the end of the text, the word of up to sixteen
characters there, or the character there. -/
def found (s : Array Char) (loc : Nat) : String :=
  if h : loc < s.size then
    let c := s[loc]
    let word :=
      if isWordChar c then
        let rec go : Nat → Nat → Nat
          | 0, j => j
          | fuel + 1, j => match s[j]? with
            | some d => if isWordChar d then go fuel (j + 1) else j
            | none => j
        slice s loc (min (go 16 loc) (loc + 16))
      else String.singleton c
    (Text.quoted word).replace "\\\\" "\\"
  else "end of text"

/-- The name of a failure's kind in reports. -/
def Severity.name : Severity → String
  | .soft => "ParseException"
  | .fatal => "ParseFatalException"
  | .decisive => "ParseSyntaxException"
  | .noHeight => "ValueError"
  | .leftAsText => "AttributeError"

/-- The report of a failure met in the text `s`: the text, a caret under the failure, its kind,
what was expected, what was found and where. -/
def Miss.explain (s : Array Char) (m : Miss) : String :=
  let col := m.loc + 1
  "\n" ++ slice s 0 s.size ++ "\n" ++ String.ofList (List.replicate (col - 1) ' ') ++ "^\n" ++
    m.severity.name ++ ": " ++ m.msg ++ ", found " ++ found s m.loc ++ "  (at char " ++
    toString m.loc ++ "), (line:1, col:" ++ toString col ++ ")"

/-- The error a failure met in the text `s` raises: the parser's report of it, or the error of
a delimiter pair that could not be built. -/
def Miss.fault (s : Array Char) (m : Miss) : Fault :=
  match m.severity with
  | .noHeight => .noDelimiterHeight
  | .leftAsText => .delimiterLeftAsText
  | _ => .badMarkup (m.explain s)

/-- The line with each tab replaced by the spaces up to the next multiple of eight columns; a
line break or carriage return starts the columns again. -/
def expandTabs (line : String) : String :=
  let step := fun (acc : List Char × Nat) (c : Char) =>
    if c == '\t' then
      let n := 8 - acc.2 % 8
      (List.replicate n ' ' ++ acc.1, acc.2 + n)
    else if c == '\n' || c == '\r' then (c :: acc.1, 0)
    else (c :: acc.1, acc.2 + 1)
  String.ofList (line.toList.foldl step ([], 0)).1.reverse

/-- Checks the formulas of a line, in order, after expanding its tabs: the error of the first
that fails, or the report on the text after the last formula that parsed when a formula fails
softly. -/
def checkLine (raw : String) : Option Fault :=
  if !isMarkup raw then none
  else
    let s := (expandTabs raw).toList.toArray
    let rec go : Nat → Nat → Option Fault
      | 0, _ => none
      | fuel + 1, loc =>
        let q := skipBlanks s loc
        let stopHere : Option Fault :=
          if q < s.size then some (.badMarkup ((Miss.soft q "Expected end of text").explain s))
          else none
        match dollarEnd s q with
        | none => stopHere
        | some e =>
          let inner := s.extract (q + 1) (e - 1)
          match formula inner with
          | .ok () => go fuel (plainEnd s e)
          | .error m => if m.severity == .soft then stopHere else some (m.fault inner)
    go (s.size + 1) (plainEnd s 0)

/-- The error of the first line of a title whose markup fails, if any. -/
def check (title : String) : Option Fault :=
  (title.splitOn "\n").findSome? checkLine

end Markup

end Turtle
