import MachineTypes.Builder.Capacity
import MachineTypes.Foreign.Point
import MachineTypes.Foreign.Unit
import MachineTypes.Proofs.Descriptor.Cutoff
import MachineTypes.Proofs.Descriptor.FirstViolation
import MachineTypes.Proofs.Descriptor.Levels
import MachineTypes.Proofs.Descriptor.ShallowCheck
import MachineTypes.Proofs.Subtype.Bounds
import MachineTypes.Proofs.Subtype.Diagnosis
import MachineTypes.Proofs.Subtype.Order
import MachineTypes.Proofs.Subtype.Projection
import MachineTypes.Proofs.Subtype.Walk
import MachineTypes.Proofs.Subtype.Widening
import MachineTypes.Proofs.Tag
import MachineTypes.Proofs.TraceLog.Colours
import MachineTypes.Proofs.TraceLog.Providers
import MachineTypes.Proofs.TraceLog.Rendering
import MachineTypes.Proofs.TraceLog.Steps
import MachineTypes.Proofs.Ty.AnyOrder
import MachineTypes.Proofs.Ty.Display
import MachineTypes.Proofs.Ty.Nodes
import MachineTypes.Ty.Inspect
import MachineTypes.Workspace
