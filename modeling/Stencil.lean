import Stencil.Engine.Session
import Stencil.Main
import Stencil.Proofs.Coalescing
import Stencil.Proofs.Expansion
import Stencil.Proofs.Interpreter
import Stencil.Proofs.Segmentation
import Stencil.Proofs.Grammar
import Stencil.Proofs.Splitting
import Stencil.Proofs.Spelling
import Stencil.Proofs.Inlining
import Stencil.Proofs.JsonRoundTrip
import Stencil.Proofs.EncodedField
import Stencil.Proofs.Resumption
import Stencil.Proofs.Registration
import Stencil.Proofs.Invocation
import Stencil.Proofs.Copies
import Stencil.Proofs.Agreement
import Stencil.Proofs.History
import Stencil.Proofs.Handover
import Stencil.Proofs.Concatenation
import Stencil.Proofs.Footprint
import Stencil.Proofs.Unreferenced
import Stencil.Proofs.Growth
import Stencil.Proofs.ConfigRoundTrip
import Stencil.Proofs.Logging
import Stencil.Proofs.Stages
import Stencil.Proofs.CommandLine
import Stencil.Proofs.Overlay
import Stencil.Proofs.Modes
import Stencil.Proofs.Arrival
import Stencil.Proofs.ConfigLanguage
import Stencil.Proofs.Courses
import Stencil.Proofs.Diagnosis
import Stencil.Proofs.Construction
import Stencil.Proofs.Naming
import Stencil.Proofs.Recognition
import Stencil.Proofs.Integers
