import LexTable.RuleTable
import LexTable.WordList

/-!
# The rule table for NuShell

A single state. The rule for keywords comes before the one for names, and the rule for floats
before the one for integers. The keywords are those of statements and the built-in commands,
with commands of several words such as `polars group-by`.
-/

namespace LexTable.NuShell

def keywords : List String :=
  ["let", "mut", "if", "else", "for", "in", "while", "break", "continue", "return", "match",
    "case", "default", "try", "catch", "finally", "throw", "import", "export", "from", "as",
    "with", "async", "await", "yield", "class", "extends", "super", "this", "new", "delete",
    "typeof", "instanceof", "void", "of", "all", "ansi", "ansi gradient", "ansi link",
    "ansi strip", "any", "append", "ast", "banner", "bits", "bits and", "bits not", "bits or",
    "bits rol", "bits ror", "bits shl", "bits shr", "bits xor", "break", "bytes", "bytes add",
    "bytes at", "bytes build", "bytes collect", "bytes ends-with", "bytes index-of",
    "bytes length", "bytes remove", "bytes replace", "bytes reverse", "bytes starts-with", "cal",
    "cd", "char", "chunks", "clear", "collect", "columns", "commandline", "commandline edit",
    "commandline get-cursor", "commandline set-cursor", "compact", "complete", "config",
    "config env", "config nu", "config reset", "const", "continue", "cp", "create_left_prompt",
    "create_right_prompt", "date", "date format", "date humanize", "date list-timezone",
    "date now", "date to-record", "date to-table", "date to-timezone", "debug", "debug info",
    "debug profile", "decode", "decode base32", "decode base32hex", "decode base64", "decode hex",
    "decode new-base64", "def", "default", "describe", "detect columns", "drop", "do",
    "drop column", "drop nth", "du", "each", "each while", "echo", "encode", "encode base32",
    "encode base32hex", "encode base64", "encode hex", "encode new-base64", "add", "enumerate",
    "error make", "every", "exec", "exit", "explain", "explore", "export", "export alias",
    "export const", "export def", "export extern", "export module", "export use", "export-env",
    "extern", "fill", "filter", "find", "first", "flatten", "fmt", "for", "format", "format date",
    "format duration", "format filesize", "format pattern", "from", "from csv", "from eml",
    "from ics", "from ini", "from json", "from msgpack", "from msgpackz", "from nuon", "from ods",
    "from plist", "from ssv", "from toml", "from tsv", "from url", "from vcf", "from xlsx",
    "from xml", "from yaml", "from yml", "goto", "generate", "get", "glob", "grid", "group",
    "group-by", "hash", "hash md5", "hash sha256", "headers", "help", "help aliases",
    "help commands", "help escapes", "help externs", "help modules", "help operators", "hide",
    "hide-env", "histogram", "history", "history session", "http", "http delete", "http get",
    "http head", "http options", "http patch", "http post", "http put", "if", "ignore", "input",
    "input list", "input listen", "insert", "inspect", "interleave", "into", "into binary",
    "into bits", "into bool", "into cell-path", "into datetime", "into duration", "into filesize",
    "into float", "into glob", "into int", "into record", "into sqlite", "into string",
    "into value", "is-admin", "is-empty", "is-not-empty", "is-terminal", "items", "join",
    "keybindings", "keybindings default", "keybindings list", "keybindings listen", "kill",
    "last", "length", "let", "let-env", "lines", "load-env", "loop", "ls", "match", "math",
    "math abs", "math arccos", "math arccosh", "math arcsin", "math arcsinh", "math arctan",
    "math arctanh", "math avg", "math ceil", "math cos", "math cosh", "math exp", "math floor",
    "math ln", "math log", "math max", "math median", "math min", "math mode", "math product",
    "math round", "math sin", "math sinh", "math sqrt", "math stddev", "math sum", "math tan",
    "math tanh", "math variance", "merge", "metadata", "metadata access", "metadata set", "mkdir",
    "mktemp", "module", "move", "mut", "mv", "next", "nu-check", "nu-highlight", "open",
    "overlay", "overlay hide", "overlay list", "overlay new", "overlay use", "prev", "panic",
    "par-each", "parse", "path", "path basename", "path dirname", "path exists", "path expand",
    "path join", "path parse", "path relative-to", "path split", "path type", "plugin",
    "plugin add", "plugin list", "plugin rm", "plugin stop", "plugin use", "polars", "polars agg",
    "polars agg-groups", "polars all-false", "polars all-true", "polars append", "polars arg-max",
    "polars arg-min", "polars arg-sort", "polars arg-true", "polars arg-unique",
    "polars arg-where", "polars as", "polars as-date", "polars as-datetime", "polars cache",
    "polars cast", "polars col", "polars collect", "polars columns", "polars concat-str",
    "polars contains", "polars count", "polars count-null", "polars cumulative",
    "polars datepart", "polars decimal", "polars drop", "polars drop-duplicates",
    "polars drop-nulls", "polars dummies", "polars explode", "polars expr-not", "polars fetch",
    "polars fill-nan", "polars fill-null", "polars filter", "polars filter-with", "polars first",
    "polars flatten", "polars get", "polars get-day", "polars get-hour", "polars get-minute",
    "polars get-month", "polars get-nanosecond", "polars get-ordinal", "polars get-second",
    "polars get-week", "polars get-weekday", "polars get-year", "polars group-by",
    "polars implode", "polars integer", "polars into-df", "polars into-lazy", "polars into-nu",
    "polars is-duplicated", "polars is-in", "polars is-not-null", "polars is-null",
    "polars is-unique", "polars join", "polars last", "polars lit", "polars lowercase",
    "polars max", "polars mean", "polars median", "polars min", "polars n-unique", "polars not",
    "polars open", "polars otherwise", "polars pivot", "polars quantile", "polars query",
    "polars rename", "polars replace", "polars replace-all", "polars reverse", "polars rolling",
    "polars sample", "polars save", "polars schema", "polars select", "polars set",
    "polars set-with-idx", "polars shape", "polars shift", "polars slice", "polars sort-by",
    "polars std", "polars store-get", "polars store-ls", "polars store-rm", "polars str-join",
    "polars str-lengths", "polars str-slice", "polars strftime", "polars sum", "polars summary",
    "polars take", "polars unique", "polars unpivot", "polars uppercase", "polars value-counts",
    "polars var", "polars when", "polars with-column", "port", "port scan", "prepend", "print",
    "ps", "pwd", "query", "query db", "query json", "query web", "query webpage-info",
    "query xml", "random", "random binary", "random bool", "random chars", "random dice",
    "random float", "random int", "random uuid", "range", "reduce", "reject", "rename", "return",
    "reverse", "rm", "roll", "roll down", "roll left", "roll right", "roll up", "rotate",
    "run-external", "save", "schema", "scope", "scope aliases", "scope commands",
    "scope engine-stats", "scope externs", "scope modules", "scope variables", "select", "seq",
    "seq char", "seq date", "show", "shuffle", "skip", "skip until", "skip while", "sleep",
    "sort", "sort-by", "source", "source-env", "split", "split cell-path", "split chars",
    "split column", "split list", "split row", "split words", "split-by", "start", "stor",
    "stor create", "stor delete", "stor export", "stor import", "stor insert", "stor open",
    "stor reset", "stor update", "str", "str camel-case", "str capitalize", "str contains",
    "str distance", "str downcase", "str ends-with", "str expand", "str index-of", "str join",
    "str kebab-case", "str length", "str pascal-case", "str replace", "str reverse",
    "str screaming-snake-case", "str snake-case", "str starts-with", "str stats", "str substring",
    "str title-case", "str trim", "str upcase", "sys", "sys cpu", "sys disks", "sys host",
    "sys mem", "sys net", "sys temp", "sys users", "table", "take", "take until", "take while",
    "tee", "term size", "timeit", "to", "to csv", "to html", "to json", "to md", "to msgpack",
    "to msgpackz", "to nuon", "to plist", "to text", "to toml", "to tsv", "to xml", "to yaml",
    "touch", "transpose", "try", "tutor", "ulimit", "uname", "uniq", "uniq-by", "update",
    "update cells", "upsert", "url", "url build-query", "url decode", "url encode", "url join",
    "url parse", "use", "values", "version", "view", "view files", "view ir", "view source",
    "view span", "watch", "where", "which", "while", "whoami", "window", "with-env", "wrap",
    "zip"]

def constants : List String :=
  ["true", "false", "null", "undefined", "NaN", "Infinity"]

def types : List String :=
  ["int", "float", "string", "bool", "list", "dict", "table", "record", "any"]

/-- A rule for any of the words that stands alone. -/
def wordRule (words : List String) (kind : Kind) : Rule :=
  { pattern := WordList.pattern words "\\b" "\\b", action := .token kind }

def rules : List Rule :=
  [{ pattern := "#.*$", action := .token .commentSingle },
    { pattern := "(\\bdef\\b)(\\s+)(\\w+)"
      action := .byGroups [.keyword, .whitespace, .nameFunction] },
    wordRule keywords .keyword,
    wordRule constants .keywordConstant,
    wordRule types .keywordType,
    { pattern := "[a-zA-Z_]\\w*", action := .token .name },
    { pattern := "[\\-+*/%=<>!&|^~]+", action := .token .operator },
    { pattern := "[\x7b\x7d\\[\\]();,.:]", action := .token .punctuation },
    { pattern := "\"(\\\\\\\\|\\\\\"|[^\"])*\"", action := .token .stringDouble },
    { pattern := "'(\\\\\\\\|\\\\'|[^'])*'", action := .token .stringSingle },
    { pattern := "\\d+\\.\\d+", action := .token .numberFloat },
    { pattern := "\\d+", action := .token .numberInteger },
    { pattern := "\\s+", action := .token .whitespace }]

def table : RuleTable :=
  [⟨"root", rules.map .rule⟩]

end LexTable.NuShell
