import Assay.Filter.Parser

/-!
# Prelude

The filters that are defined by terms of the filter language itself.
-/

namespace Assay.Filter

/-- The definitions, with texts for their bodies.  Each of them sees those before it.  There are no
further inputs besides the document.  What `debug` logs and what `stderr` copies to the standard
error output is no part of what the program reports, and is left out. -/
def preludeTexts : List (Definition String) :=
  [⟨"empty", [], "\x7b\x7d[] as $x | ."⟩,
   ⟨"error", ["f"], "f | error"⟩,
   ⟨"null", [], "[][0]"⟩,
   ⟨"true", [], "0 == 0"⟩,
   ⟨"false", [], "0 != 0"⟩,
   ⟨"not", [], "if . then false else true end"⟩,
   ⟨"isboolean", [], ". == true or . == false"⟩,
   ⟨"isnumber", [], ". > true and . < \"\""⟩,
   ⟨"isstring", [], ". >= \"\" and . < []"⟩,
   ⟨"isarray", [], ". >= [] and . < \x7b\x7d"⟩,
   ⟨"isobject", [], ". >= \x7b\x7d"⟩,
   ⟨"nan", [], "0 / 0"⟩,
   ⟨"infinite", [], "1 / 0"⟩,
   ⟨"isnan", [], ". < nan and nan < ."⟩,
   ⟨"isinfinite", [], ". == infinite or . == -infinite"⟩,
   ⟨"isfinite", [], "isnumber and (isinfinite | not)"⟩,
   ⟨"isnormal", [], "isnumber and ((. == 0 or isnan or isinfinite) | not)"⟩,
   ⟨"type", [],
     "if . == null then \"null\" elif isboolean then \"boolean\" elif . < \"\" then " ++
       "\"number\" elif . < [] then \"string\" elif . < \x7b\x7d then \"array\" else " ++
       "\"object\" end"⟩,
   ⟨"select", ["f"], "if f then . else empty end"⟩,
   ⟨"values", [], "select(. != null)"⟩,
   ⟨"nulls", [], "select(. == null)"⟩,
   ⟨"booleans", [], "select(isboolean)"⟩,
   ⟨"numbers", [], "select(isnumber)"⟩,
   ⟨"finites", [], "select(isfinite)"⟩,
   ⟨"normals", [], "select(isnormal)"⟩,
   ⟨"strings", [], "select(isstring)"⟩,
   ⟨"arrays", [], "select(isarray)"⟩,
   ⟨"objects", [], "select(isobject)"⟩,
   ⟨"iterables", [], "select(. >= [])"⟩,
   ⟨"scalars", [], "select(. < [])"⟩,
   ⟨"tostring", [], "\"\\(.)\""⟩,
   ⟨"tonumber", [], "if isnumber then . else fromjson end"⟩,
   ⟨"toarray", [], "if isarray then . else [.] end"⟩,
   ⟨"abs", [], "if . < 0 then -. else . end"⟩,
   ⟨"inputs", [], "empty"⟩,
   ⟨"input", [], "empty"⟩,
   ⟨"debug", [], "."⟩,
   ⟨"debug", ["f"], "(f | debug | empty), ."⟩,
   ⟨"stderr", [], "."⟩,
   ⟨"halt_error", [], "halt_error(5)"⟩,
   ⟨"recurse", [], ".."⟩,
   ⟨"recurse", ["f"], "def rec: ., (f | rec); rec"⟩,
   ⟨"recurse", ["f", "cond"], "recurse(f | select(cond))"⟩,
   ⟨"recurse_down", [], ".."⟩,
   ⟨"repeat", ["f"], "def rec: f, rec; rec"⟩,
   ⟨"while", ["c", "f"], "def rec: if c then ., (f | rec) else empty end; rec"⟩,
   ⟨"until", ["c", "f"], "def rec: if c then . else f | rec end; rec"⟩,
   ⟨"range", ["$from", "$to"], "range($from; $to; 1)"⟩,
   ⟨"range", ["$to"], "range(0; $to; 1)"⟩,
   ⟨"first", [], ".[0]"⟩,
   ⟨"last", [], ".[-1]"⟩,
   ⟨"nth", ["n"], ".[n]"⟩,
   ⟨"nth", ["n", "f"], "first(skip(n; f))"⟩,
   ⟨"isempty", ["g"], "first((g | false), true)"⟩,
   ⟨"isvalid", ["f"], "try (f | true) catch false"⟩,
   ⟨"all", ["g", "c"], "isempty(first(g | c | select(not)))"⟩,
   ⟨"any", ["g", "c"], "isempty(first(g | c | select(.))) | not"⟩,
   ⟨"all", ["c"], "all(.[]; c)"⟩,
   ⟨"any", ["c"], "any(.[]; c)"⟩,
   ⟨"all", [], "all(.[]; .)"⟩,
   ⟨"any", [], "any(.[]; .)"⟩,
   ⟨"add", ["f"], "reduce f as $x (null; . + $x)"⟩,
   ⟨"add", [], "add(.[])"⟩,
   ⟨"map", ["f"], "[.[] | f]"⟩,
   ⟨"map_values", ["f"], ".[] |= f"⟩,
   ⟨"walk", ["f"], ".. |= f"⟩,
   ⟨"keys", [], "keys_unsorted | sort"⟩,
   ⟨"to_entries", [], "[keys_unsorted[] as $k | \x7b key: $k, value: .[$k] \x7d]"⟩,
   ⟨"from_entries", [], "map(\x7b (.key): .value \x7d) | add + \x7b\x7d"⟩,
   ⟨"with_entries", ["f"], "to_entries | map(f) | from_entries"⟩,
   ⟨"in", ["xs"], ". as $x | xs | has($x)"⟩,
   ⟨"inside", ["xs"], ". as $x | xs | contains($x)"⟩,
   ⟨"index", ["$i"], "indices($i)[0]"⟩,
   ⟨"rindex", ["$i"], "indices($i)[-1]"⟩,
   ⟨"paths", [], "path(..) | select(. != [])"⟩,
   ⟨"paths", ["f"], "path(.. | select(f)) | select(. != [])"⟩,
   ⟨"getpath", ["$path"], "reduce $path[] as $p (.; .[$p])"⟩,
   ⟨"setpath", ["$path", "$x"], "getpath($path) |= $x"⟩,
   ⟨"del", ["f"], "f |= empty"⟩,
   ⟨"unique_by", ["f"], "[group_by(f)[] | .[0]]"⟩,
   ⟨"unique", [], "unique_by(.)"⟩,
   ⟨"min_by", ["f"], "reduce min_by_or_empty(f) as $x (null; $x)"⟩,
   ⟨"max_by", ["f"], "reduce max_by_or_empty(f) as $x (null; $x)"⟩,
   ⟨"min", [], "min_by(.)"⟩,
   ⟨"max", [], "max_by(.)"⟩,
   ⟨"delpaths", ["$paths"],
     "reduce ($paths | unique | reverse)[] as $p (.; getpath($p) |= empty)"⟩,
   ⟨"pick", ["f"], ". as $top | reduce path(f) as $p (null; putpath($p; $top | getpath($p)))"⟩,
   ⟨"flatten", [], "[recurse(arrays[]) | select(isarray | not)]"⟩,
   ⟨"flatten", ["$depth"],
     "def rec($d): if isarray and $d >= 0 then .[] | rec($d - 1) else . end; [rec($depth)]"⟩,
   ⟨"transpose", [], "[range([.[] | length] | max // 0) as $i | [.[][$i]]]"⟩,
   ⟨"combinations", [],
     "if length == 0 then [] else .[0][] as $x | [$x] + (.[1:] | combinations) end"⟩,
   ⟨"combinations", ["n"], ". as $x | [limit(n; repeat($x))] | combinations"⟩,
   ⟨"join", ["$x"],
     "if length == 0 then \"\" else .[0] as $h | reduce .[1:][] as $i ($h; . + $x + $i) end"⟩,
   ⟨"ascii", [], "[.] | implode"⟩,
   ⟨"tostream", [],
     "path(def r: (.[]? | r), .; r) as $p | getpath($p) | reduce path(.[]?) as $q ([$p, .]; " ++
       "[$p + $q])"⟩,
   ⟨"truncate_stream", ["f"], ". as $n | f | select(.[0] | length > $n) | .[0] |= .[$n:]"⟩,
   ⟨"fromstream", ["f"],
     "\x7b x: null, e: false \x7d as $init | foreach f as $i ($init; if .e then $init else " ++
       ". end | if $i | length == 2 then setpath([\"e\"]; $i[0] | length == 0) | " ++
       "putpath([\"x\"] + $i[0]; $i[1]) else setpath([\"e\"]; $i[0] | length == 1) end; if .e " ++
       "then .x else empty end)"⟩,
   ⟨"todate", [], "todateiso8601"⟩,
   ⟨"fromdate", [], "fromdateiso8601"⟩,
   ⟨"date", [], "todate"⟩,
   ⟨"dateadd", ["u", "n"], ". + n"⟩,
   ⟨"datesub", ["u", "n"], ". - n"⟩,
   ⟨"capture_of_match", [], "map(select(.name) | \x7b (.name): .string \x7d) | add + \x7b\x7d"⟩,
   ⟨"test", ["re", "flags"], "matches(re; flags) | any"⟩,
   ⟨"scan", ["re", "flags"], "matches(re; flags)[] | .[0].string"⟩,
   ⟨"match", ["re", "flags"], "matches(re; flags)[] | .[0] + \x7b captures: .[1:] \x7d"⟩,
   ⟨"capture", ["re", "flags"], "matches(re; flags)[] | capture_of_match"⟩,
   ⟨"split", ["$sep"],
     "if isstring and ($sep | isstring) then . / $sep else error(\"split input and " ++
       "separator must be strings\") end"⟩,
   ⟨"split", ["re", "flags"], "split_(re; flags + \"g\")"⟩,
   ⟨"splits", ["re", "flags"], "split(re; flags)[]"⟩,
   ⟨"sub", ["re", "f", "flags"],
     "reduce split_matches(re; flags)[] as $x (\"\"; . + if $x | isstring then $x else $x | " ++
       "capture_of_match | f end)"⟩,
   ⟨"test", ["re"], "test(re; \"\")"⟩,
   ⟨"scan", ["re"], "scan(re; \"\")"⟩,
   ⟨"match", ["re"], "match(re; \"\")"⟩,
   ⟨"capture", ["re"], "capture(re; \"\")"⟩,
   ⟨"splits", ["re"], "splits(re; \"\")"⟩,
   ⟨"sub", ["re", "f"], "sub(re; f; \"\")"⟩,
   ⟨"gsub", ["re", "f"], "sub(re; f; \"g\")"⟩,
   ⟨"gsub", ["re", "f", "flags"], "sub(re; f; flags + \"g\")"⟩,
   ⟨"fmt_row", ["n", "s"], "if . >= \"\" then s elif . == null then n else tojson end"⟩,
   ⟨"@text", [], "tostring"⟩,
   ⟨"@json", [], "tojson"⟩,
   ⟨"@csv", [], "[.[] | fmt_row(\"\"; \"\\\"\\(escape_csv)\\\"\")] | join(\",\")"⟩,
   ⟨"@tsv", [], "[.[] | fmt_row(\"\"; escape_tsv)] | join(\"\\t\")"⟩,
   ⟨"@sh", [], "[toarray[] | fmt_row(\"null\"; \"'\\(escape_sh)'\")] | join(\" \")"⟩,
   ⟨"@html", [], "tostring | escape_html"⟩,
   ⟨"@uri", [], "tostring | encode_uri"⟩,
   ⟨"@base64", [], "tostring | encode_base64"⟩,
   ⟨"@base64d", [], "tostring | decode_base64"⟩]

/-- The term of the text of a body; the text stands for itself if it cannot be parsed. -/
def bodyOf (text : String) : Term :=
  match Token.ofText text with
  | .error _ => .text text
  | .ok tokens =>
    match Parser.onTokens tokens .identity (Parser.term true (10 * text.length + 20)) with
    | .ok t => t
    | .error _ => .text text

/-- The definitions of the prelude. -/
def prelude : List (Definition Term) :=
  preludeTexts.map fun d => ⟨d.name, d.params, bodyOf d.body⟩

end Assay.Filter
