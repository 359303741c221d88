import SetupScript.Yaml.Meaning
import SetupScript.Yaml.Readable

/-!
# Loading documents

`Yaml.load` reads the only document of a file. Its value is null if there is none.
-/

namespace SetupScript.Yaml

def load (bytes : ByteArray) : Except Defect Value := do
  let text := Readable.ofBytes bytes
  let x ← Document.ofTokens (Token.stream text.chars text.beyond)
  x.meaning

end SetupScript.Yaml
