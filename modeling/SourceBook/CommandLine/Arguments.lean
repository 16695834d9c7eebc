import SourceBook.CommandLine.Request

namespace SourceBook.CommandLine

/-- What was read so far: values in order with the names of their switches, and the words that look
like switches and are none. -/
structure Seen where
  values : List (String × Data) := []
  unknown : List Text := []

def Seen.add (seen : Seen) (switch : Switch) (value : Data) : Seen :=
  { seen with values := seen.values ++ [(switch.name, value)] }

def Seen.stray (seen : Seen) (word : Text) : Seen :=
  { seen with unknown := seen.unknown ++ [word] }

def Seen.leave (seen : Seen) (words : List Text) : Seen :=
  if seen.unknown.isEmpty then seen else { seen with unknown := seen.unknown ++ words }

/-- Reads words. `several` is the switch that takes the words that come next, if there is one. A switch
that asks for the version, or lacks its value, ends the reading. -/
def read (known : List Switch) (several : Option Switch) (seen : Seen) :
    List Text → Except (Except Misuse Request) Seen
  | [] => .ok seen
  | word :: rest =>
    if word = dashes then .ok (seen.leave (word :: rest))
    else if isDashed word then
      match _hw : spelling known word with
      | .whole switch =>
        if switch.name = versionSwitch.name then .error (.ok .version)
        else
          match _hv : valueFrom? switch.follows rest with
          | some (value, after) =>
            read known (if switch.follows.isMany then some switch else none) (seen.add switch value) after
          | none => .error (.error (.missingValue switch))
      | .cluster switch letters =>
        if switch.name = versionSwitch.name then .error (.ok .version)
        else if switch.follows = .nothing then
          read known none (seen.add switch (.bool true)) (('-' :: letters) :: rest)
        else read known none (seen.add switch (.text letters)) rest
      | .assigned switch value => read known none (seen.add switch (.text value)) rest
      | .unknown => read known none (seen.stray word) rest
    else
      match several with
      | some switch => read known several (seen.add switch (.text word)) rest
      | none => read known none seen rest
  termination_by words => size words
  decreasing_by
    all_goals simp only [size_cons, List.length_cons]
    · have := size_of_valueFrom? _hv
      omega
    · have := length_of_spelling _hw
      omega
    all_goals omega

def Seen.last? (seen : Seen) (name : String) : Option Data := seen.values.reverse.lookup name

def textOf? : Data → Option Text
  | .text text => some text
  | _ => none

def Seen.all? (seen : Seen) (name : String) : Option (List Text) :=
  match seen.values.filter fun (other, _) => other = name with
  | [] => none
  | values => some (values.filterMap fun (_, value) => textOf? value)

def Seen.given (seen : Seen) : Given where
  source := seen.all? "source"
  out := (seen.last? "out").bind textOf?
  exclude := seen.all? "exclude"
  ext := seen.all? "ext"
  includeTests := seen.last? "include-tests"
  maxFiles := seen.last? "max-files"
  maxFileSize := seen.last? "max-file-size"
  maxTotalSize := seen.last? "max-total-size"
  stripComments := seen.last? "strip-comments"
  lineNumbers := seen.last? "line-numbers"
  tree := seen.last? "tree"
  toc := seen.last? "toc"
  normalize := seen.last? "normalize"
  dedupeHeadings := seen.last? "dedupe-headings"
  report := (seen.last? "report").bind textOf?
  reportFormat := seen.last? "report-format"
  failOnWarnings := seen.last? "fail-on-warnings"
  verbose := (seen.last? "verbose").isSome

def Seen.request (seen : Seen) : Except Misuse Request :=
  if seen.unknown.any helpSwitch.isSpelt then .ok .help
  else
    match switches.find? fun switch => switch.required && (seen.last? switch.name).isNone with
    | some switch => .error (.missingSwitch switch)
    | none =>
      match seen.unknown with
      | word :: _ => .error (.unknownSwitch word)
      | [] => .ok (.export seen.given)

def request (words : List Text) : Except Misuse Request :=
  match read switches none {} words with
  | .ok seen => seen.request
  | .error outcome => outcome

end SourceBook.CommandLine
