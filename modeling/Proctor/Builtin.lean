import Proctor.Profile

/-!
# Built-in languages

The profiles that exist without a configuration file, given by their fields so that
a file can replace single ones.
-/

namespace Proctor.Builtin

/-- Expressions for tests of the script languages. -/
def scriptPatterns : List String := [
  "^\\s*test(?:\\.only|\\.skip)?\\s*\\(\\s*['\\\"\x60]([^'\\\"\x60]+)['\\\"\x60]",
  "^\\s*it(?:\\.only|\\.skip)?\\s*\\(\\s*['\\\"\x60]([^'\\\"\x60]+)['\\\"\x60]"]

/-- Expressions for suites of the script languages. -/
def scriptScopes : List String := [
  "^\\s*describe\\s*\\(\\s*['\\\"\x60]([^'\\\"\x60]+)['\\\"\x60]",
  "^\\s*describe\\.skip\\s*\\(\\s*['\\\"\x60]([^'\\\"\x60]+)['\\\"\x60]",
  "^\\s*describe\\.only\\s*\\(\\s*['\\\"\x60]([^'\\\"\x60]+)['\\\"\x60]",
  "^\\s*context\\s*\\(\\s*['\\\"\x60]([^'\\\"\x60]+)['\\\"\x60]"]

/-- The profile of Go. -/
def go : Fields := [
  ("patterns", Profile.textList [
    "^func\\s+(Test\\w+)", "^func\\s+(Benchmark\\w+)", "^func\\s+(Example\\w+)",
    "^func\\s+(Fuzz\\w+)"]),
  ("commands", Profile.textList ["go test -v -run ^%s$ ./...", "go test -v -run ^%s$ ."]),
  ("debug_commands", Profile.textList ["dlv test . -- -test.run ^%s$"]),
  ("coverage_commands", Profile.textList ["go test -v -cover -run ^%s$ ./..."]),
  ("root_markers", Profile.textList ["go.mod", "go.sum"]),
  ("test_file_naming", Profile.textList ["*_test.go"]),
  ("extensions", Profile.textList ["go"]),
  ("context", .text "file_scope")]

/-- The profile of Python. -/
def python : Fields := [
  ("patterns", Profile.textList [
    "^\\s*def\\s+(test_\\w+)", "^\\s*async\\s+def\\s+(test_\\w+)", "^\\s*class\\s+(Test\\w+)"]),
  ("commands", Profile.textList ["pytest -xvs %f::%S", "python -m pytest -xvs %f::%S"]),
  ("debug_commands", Profile.textList [
    "python -m debugpy --listen 5678 --wait-for-client -m pytest -xvs %f::%S"]),
  ("coverage_commands", Profile.textList [
    "pytest -xvs --cov --cov-report=term-missing %f::%S"]),
  ("root_markers", Profile.textList ["pytest.ini", "setup.py", "pyproject.toml"]),
  ("test_file_naming", Profile.textList ["test_*.py", "*_test.py"]),
  ("extensions", Profile.textList ["py"]),
  ("context", .text "enclosing_class"),
  ("scope_patterns", Profile.textList ["^class\\s+(Test\\w+)"])]

/-- The profile of Rust. -/
def rust : Fields := [
  ("patterns", Profile.textList [
    "#\\[test\\]\\s*fn\\s+(\\w+)",
    "#\\[tokio::test\\]\\s*async\\s+fn\\s+(\\w+)",
    "#\\[rstest\\]\\s*fn\\s+(\\w+)",
    "^\\s*(?:pub\\s+)?(?:async\\s+)?fn\\s+(test_\\w+)"]),
  ("commands", Profile.textList ["cargo test %s --", "cargo nextest run %s"]),
  ("debug_commands", Profile.textList ["rust-gdb --args cargo test %s --"]),
  ("root_markers", Profile.textList ["Cargo.toml"]),
  ("test_file_naming", Profile.textList ["src/**/*test*.rs", "tests/**/*.rs"]),
  ("extensions", Profile.textList ["rs"]),
  ("context", .text "module_block"),
  ("scope_patterns", Profile.textList [
    "^\\s*(?:pub(?:\\([^)]*\\))?\\s+)?mod\\s+(\\w+)\\s*\\\x7b"]),
  ("context_separator", .text "::")]

/-- The profile of JavaScript. -/
def javascript : Fields := [
  ("patterns", Profile.textList scriptPatterns),
  ("commands", Profile.textList [
    "npm test -- --testNamePattern=%s", "jest --testNamePattern=%s"]),
  ("coverage_commands", Profile.textList ["npm test -- --coverage --testNamePattern=%s"]),
  ("root_markers", Profile.textList ["package.json", "jest.config.js"]),
  ("test_file_naming", Profile.textList ["**/*.test.js", "**/*.spec.js"]),
  ("extensions", Profile.textList ["js", "jsx", "mjs", "cjs"]),
  ("context", .text "indent_stack"),
  ("scope_patterns", Profile.textList scriptScopes),
  ("context_separator", .text " > ")]

/-- The profile of TypeScript. -/
def typescript : Fields := [
  ("patterns", Profile.textList scriptPatterns),
  ("commands", Profile.textList ["npm test -- --testNamePattern=%s", "vitest run -t %s"]),
  ("coverage_commands", Profile.textList ["vitest run --coverage -t %s"]),
  ("root_markers", Profile.textList ["package.json", "vitest.config.ts"]),
  ("test_file_naming", Profile.textList ["**/*.test.ts", "**/*.spec.ts"]),
  ("extensions", Profile.textList ["ts", "tsx", "mts", "cts"]),
  ("context", .text "indent_stack"),
  ("scope_patterns", Profile.textList scriptScopes),
  ("context_separator", .text " > ")]

/-- The built-in languages by tag, in their order. -/
def languages : List (String × Fields) := [
  ("go", go),
  ("python", python),
  ("rust", rust),
  ("javascript", javascript),
  ("typescript", typescript)]

end Proctor.Builtin
